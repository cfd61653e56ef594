import BoxDoubao.Lib.Resource

/-!
# Starting the desktop program

`main` up to the point where the session runs: `client_init`, then in the audio
modes `audio_init` and `audio_open_output`, then `client_connect`. Each can fail
at several points, and `main` cleans up with `audio_cleanup` and
`client_destroy`. `Outcomes` is one choice of what fails, and `StartUp` the
handles with a ledger of what is done to the resources behind them.
-/

namespace BoxDoubao

namespace Desktop

/-- What the start-up creates. The Ogg states and the buffer of raw Ogg data
are set up again while the program runs, and are numbered. -/
inductive DesktopResource where
  | sendMutex
  | recvBuf
  | lwsContext
  | playQueue
  | opusEncoder
  | opusDecoder
  | oggSync (n : ℕ)
  | oggStream (n : ℕ)
  | portAudio
  | inputStream
  | outputStream
  | playerThread
  | oggBuffer (n : ℕ)
  deriving DecidableEq

/-- What the messages do to the Ogg state that may arrive while
`client_connect` waits. -/
inductive OggChange where
  /-- `ogg_buffer_append` moves the buffer of raw data. -/
  | append
  /-- A page, where no logical stream is open. -/
  | firstPage
  /-- A page that begins a new logical stream. -/
  | newStream
  /-- `audio_reset_ogg_state`. -/
  | reset
  deriving DecidableEq

/-- One choice of the mode and of what fails. -/
structure Outcomes where
  audioFile : Bool
  /-- `client_init` finds the environment variables. -/
  environment : Bool
  /-- `malloc` of the receive buffer, which is not checked. -/
  recvBuf : Bool
  opusEncoder : Bool
  opusDecoder : Bool
  paInitialize : Bool
  openStream : Bool
  startStream : Bool
  createThread : Bool
  createContext : Bool
  /-- `lws_client_connect_via_info`. -/
  initiate : Bool
  /-- What arrives during the wait. -/
  arrivals : List OggChange
  /-- The connection is up before the time is over. -/
  connected : Bool
  deriving DecidableEq

/-- The handles of `doubao_client_t` and `audio_manager_t` (whether they are
set), the numbers of the Ogg states and of the buffer, and the ledger. -/
structure StartUp where
  context : Bool
  recvBuf : Bool
  inputStream : Bool
  outputStream : Bool
  opusEncoder : Bool
  opusDecoder : Bool
  oggStreamInited : Bool
  oggBuffer : Bool
  syncs : ℕ
  streams : ℕ
  buffers : ℕ
  ledger : Ledger DesktopResource
  deriving DecidableEq

namespace StartUp

/-- `memset(s, 0, sizeof(*s))`. -/
def zero : StartUp where
  context := false
  recvBuf := false
  inputStream := false
  outputStream := false
  opusEncoder := false
  opusDecoder := false
  oggStreamInited := false
  oggBuffer := false
  syncs := 0
  streams := 0
  buffers := 0
  ledger := []

def acquire (s : StartUp) (r : DesktopResource) : StartUp :=
  { s with ledger := .acquire r :: s.ledger }

def use (s : StartUp) (r : DesktopResource) : StartUp :=
  { s with ledger := .use r :: s.ledger }

def release (s : StartUp) (r : DesktopResource) : StartUp :=
  { s with ledger := .release r :: s.ledger }

/-- Released where the handle is set. -/
def releaseIf (s : StartUp) (handle : Bool) (r : DesktopResource) : StartUp :=
  { s with ledger := s.ledger.releaseIf handle r }

/-! ### The client -/

/-- `client_init`. -/
def clientInit (o : Outcomes) (s : StartUp) : Bool × StartUp :=
  if o.environment = false then (false, s)
  else
    let s := s.acquire .sendMutex
    if o.recvBuf then (true, { s.acquire .recvBuf with recvBuf := true }) else (true, s)

/-- `client_destroy`. The send queue is empty. -/
def clientDestroy (s : StartUp) : StartUp :=
  let s := { s.releaseIf s.context .lwsContext with context := false }
  let s := { s.releaseIf s.recvBuf .recvBuf with recvBuf := false }
  (s.use .sendMutex).release .sendMutex

/-! ### The audio manager -/

/-- `audio_init`. -/
def audioInit (o : Outcomes) (s : StartUp) : Bool × StartUp :=
  let s := s.acquire .playQueue
  if o.opusEncoder = false then (false, s)
  else
    let s := { s.acquire .opusEncoder with opusEncoder := true }
    if o.opusDecoder = false then (false, s.release .opusEncoder)
    else
      let s := { s.acquire .opusDecoder with opusDecoder := true }
      let s := { s.acquire (.oggSync s.syncs) with oggStreamInited := false }
      if o.paInitialize = false then (false, s) else (true, s.acquire .portAudio)

/-- `audio_open_output`. A stream that cannot be opened leaves its handle
alone. -/
def audioOpenOutput (o : Outcomes) (s : StartUp) : Bool × StartUp :=
  if o.openStream = false then (false, s)
  else
    let s := { s.acquire .outputStream with outputStream := true }
    if o.startStream = false then (false, s.use .outputStream)
    else
      let s := s.use .outputStream
      if o.createThread = false then (false, s) else (true, s.acquire .playerThread)

/-- `ogg_stream_clear`, where a logical stream is open. -/
def clearStream (s : StartUp) : StartUp :=
  if s.oggStreamInited then
    { s.release (.oggStream s.streams) with oggStreamInited := false, streams := s.streams + 1 }
  else s

/-- What a message does to the Ogg state. -/
def arrive (s : StartUp) : OggChange → StartUp
  | .append =>
    { (s.releaseIf s.oggBuffer (.oggBuffer s.buffers)).acquire (.oggBuffer (s.buffers + 1)) with
      oggBuffer := true
      buffers := s.buffers + 1 }
  | .firstPage =>
    if s.oggStreamInited then s
    else { s.acquire (.oggStream s.streams) with oggStreamInited := true }
  | .newStream =>
    let s := s.clearStream
    { s.acquire (.oggStream s.streams) with oggStreamInited := true }
  | .reset =>
    let s := s.clearStream
    { (s.release (.oggSync s.syncs)).acquire (.oggSync (s.syncs + 1)) with
      syncs := s.syncs + 1 }

/-- `audio_cleanup`. -/
def audioCleanup (s : StartUp) : StartUp :=
  let s := (s.use .playQueue).release .playerThread
  let s := s.releaseIf s.inputStream .inputStream
  let s := s.releaseIf s.outputStream .outputStream
  let s := s.release .portAudio
  let s := { s.releaseIf s.opusEncoder .opusEncoder with opusEncoder := false }
  let s := { s.releaseIf s.opusDecoder .opusDecoder with opusDecoder := false }
  let s := s.releaseIf s.oggStreamInited (.oggStream s.streams)
  let s := s.release (.oggSync s.syncs)
  let s := s.release .playQueue
  { s.releaseIf s.oggBuffer (.oggBuffer s.buffers) with oggBuffer := false }

/-! ### The connection and `main` -/

/-- `client_connect`. Messages reach the audio manager in the audio modes
only. -/
def clientConnect (o : Outcomes) (s : StartUp) : Bool × StartUp :=
  if o.createContext = false then (false, { s with context := false })
  else
    let s := { s.acquire .lwsContext with context := true }
    if o.initiate = false then (false, (s.use .lwsContext).release .lwsContext)
    else
      let s := s.use .lwsContext
      (o.connected, if o.audioFile then s else o.arrivals.foldl arrive s)

/-- The part of `main` that starts the audio, with its clean-up. -/
def startAudio (o : Outcomes) (s : StartUp) : Bool × StartUp :=
  if o.audioFile then (true, s)
  else
    match s.audioInit o with
    | (false, s) => (false, s.clientDestroy)
    | (true, s) =>
      match s.audioOpenOutput o with
      | (false, s) => (false, s.audioCleanup.clientDestroy)
      | (true, s) => (true, s)

/-- The part of `main` that connects, with its clean-up. -/
def startClient (o : Outcomes) (s : StartUp) : Bool × StartUp :=
  match s.clientConnect o with
  | (false, s) => (false, if o.audioFile then s.clientDestroy else s.audioCleanup.clientDestroy)
  | (true, s) => (true, s)

/-- `main` up to the start of the service thread. -/
def main (o : Outcomes) : Bool × StartUp :=
  match zero.clientInit o with
  | (false, s) => (false, s)
  | (true, s) =>
    match s.startAudio o with
    | (false, s) => (false, s)
    | (true, s) => s.startClient o

end StartUp

end Desktop

end BoxDoubao
