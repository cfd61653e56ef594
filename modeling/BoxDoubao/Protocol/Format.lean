import BoxDoubao.Lib.CMemory

/-!
# The wire constants and the parsed response

The message types, flags, serialization and compression codes, command ids and
event codes of `doubao_protocol.h`, and `parsed_response_t`, the record
`protocol_parse_response` fills in and the receive callback reads.

`int` and `uint32_t` fields keep their width (`Int32`, `UInt32`); the
`has_*` and `is_binary` fields, which only ever hold 0 or 1, are Booleans. The
`payload_data` pointer is `none` for `NULL` and otherwise the bytes of the
buffer it points to.
-/

namespace BoxDoubao

open CMemory

/-! ### Message types, flags and codes -/

def protocolVersion : UInt8 := 0x01
def defaultHeaderSize : UInt8 := 0x01

def msgClientFullRequest : UInt8 := 0x01
def msgClientAudioOnly : UInt8 := 0x02
def msgServerFullResponse : UInt8 := 0x09
def msgServerAck : UInt8 := 0x0B
def msgServerError : UInt8 := 0x0F

def flagNegSequence : UInt8 := 0x02
def flagMsgWithEvent : UInt8 := 0x04

def serialNone : UInt8 := 0x00
def serialJson : UInt8 := 0x01

def compressNone : UInt8 := 0x00
def compressGzip : UInt8 := 0x01

/-- The commands the client sends. -/
inductive Cmd where
  | startConnection
  | finishConnection
  | startSession
  | finishSession
  | taskRequest
  | sayHello
  deriving DecidableEq, Repr

/-- The command id on the wire. -/
def Cmd.id : Cmd → UInt32
  | .startConnection => 1
  | .finishConnection => 2
  | .startSession => 100
  | .finishSession => 102
  | .taskRequest => 200
  | .sayHello => 300

def eventTtsTextClear : Int32 := 350
def eventTtsEnded : Int32 := 359
def eventClearCache : Int32 := 450
def eventUserQueryEnd : Int32 := 459
def eventSessionFinish1 : Int32 := 152
def eventSessionFinish2 : Int32 := 153

/-! ### The parsed response -/

/-- `parsed_response_t`. -/
structure ParsedResponse where
  messageType : UInt8
  event : Int32
  hasEvent : Bool
  seq : UInt32
  hasSeq : Bool
  sessionId : CArray 128
  payloadSize : UInt32
  payloadData : Option Bytes
  payloadDataLen : ℕ
  /-- `true` for raw audio, `false` for JSON text. -/
  isBinary : Bool
  errorCode : UInt32
  deriving DecidableEq

/-- The record after `memset(resp, 0, sizeof(*resp)); resp->event = -1;`. -/
def ParsedResponse.cleared : ParsedResponse where
  messageType := 0
  event := -1
  hasEvent := false
  seq := 0
  hasSeq := false
  sessionId := CArray.zero 128
  payloadSize := 0
  payloadData := none
  payloadDataLen := 0
  isBinary := false
  errorCode := 0

/-- The cleared record with its message type set. -/
def ParsedResponse.ofType (messageType : UInt8) : ParsedResponse :=
  { ParsedResponse.cleared with messageType := messageType }

end BoxDoubao
