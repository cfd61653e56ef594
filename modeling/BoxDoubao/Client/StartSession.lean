import BoxDoubao.Lib.JsonPrint
import BoxDoubao.Desktop.ChatQuery

/-!
# `build_start_session_json`

The firmware and the desktop client format the request that opens a session
with two calls of `snprintf`: the strings of the configuration are put between
quotation marks as they are. Both formats are `sessionBytes`, with what differs
between them in `SessionFormat`.

`buildStartSessionJson_encodes_iff` says for which configurations the payload
is the request: nothing in its strings may be special to JSON.
-/

namespace BoxDoubao

open CMemory JsonText

/-- What the two formats have of their own. -/
structure SessionFormat where
  /-- `end_smooth_window_ms`. -/
  window : ℤ
  botName : String
  city : String
  /-- The member `enable_user_query_exit` is there. -/
  queryExit : Bool

def systemRole : List Char := "你使用活泼灵动的女声，性格开朗，热爱生活。".toList
def speakingStyle : List Char := "你的说话风格简洁明了，语速适中，语调自然。".toList
def auditResponse : List Char := "支持客户自定义安全审核回复话术。".toList

/-- The format of `asr_block`. -/
def asrBytes (f : SessionFormat) : Option Bytes → Bytes
  | some format =>
    utf8 "\"asr\":\x7b\"audio_info\":\x7b\"format\":\"".toList ++ format ++
      utf8 ("\",\"sample_rate\":16000,\"channel\":1\x7d,".toList ++
        "\"extra\":\x7b\"end_smooth_window_ms\":".toList ++ decimal f.window ++ "\x7d\x7d,".toList)
  | none =>
    utf8 ("\"asr\":\x7b\"extra\":\x7b\"end_smooth_window_ms\":".toList ++ decimal f.window ++
      "\x7d\x7d,".toList)

/-- The format of `json_buf`. -/
def sessionBytes (f : SessionFormat) (asrBlock speaker : Bytes) (recvTimeout : ℤ)
    (inputMod : Bytes) : Bytes :=
  utf8 "\x7b".toList ++ asrBlock ++ utf8 ("\"tts\":".toList ++ "\x7b\"speaker\":\"".toList) ++
    speaker ++
    utf8 ("\",\"audio_config\":\x7b\"channel\":1,\"format\":\"ogg_opus\",".toList ++
      "\"sample_rate\":24000\x7d\x7d,".toList ++
      "\"dialog\":".toList ++ "\x7b\"bot_name\":\"".toList ++ f.botName.toList ++ "\",".toList ++
      "\"system_role\":\"".toList ++ systemRole ++ "\",".toList ++
      "\"speaking_style\":\"".toList ++ speakingStyle ++ "\",".toList ++
      "\"location\":\x7b\"city\":\"".toList ++ f.city.toList ++ "\"\x7d,".toList ++
      "\"extra\":\x7b\"strict_audit\":false,".toList ++
      (if f.queryExit then "\"enable_user_query_exit\":true,".toList else []) ++
      "\"audit_response\":\"".toList ++ auditResponse ++ "\",".toList ++
      "\"recv_timeout\":".toList ++ decimal recvTimeout ++ ",\"input_mod\":\"".toList) ++
    inputMod ++ utf8 "\"\x7d\x7d\x7d".toList

/-- The string in `json_buf`. -/
def sessionJson (f : SessionFormat) (asr : Option CString) (speaker : CString) (recvTimeout : ℤ)
    (inputMod : CString) : CString :=
  let asrBlock := Desktop.snprintf 256 (asrBytes f (asr.map CString.chars))
  Desktop.snprintf 2048 (sessionBytes f asrBlock.chars speaker.chars recvTimeout inputMod.chars)

/-! ### The request -/

/-- The member `asr`. -/
def asrDoc (f : SessionFormat) (asr : Option (List Char)) : Doc :=
  let extra := Doc.object (.last "end_smooth_window_ms".toList (.number (decimal f.window)))
  match asr with
  | some format =>
    .object (.more "audio_info".toList
      (.object (.more "format".toList (.string format)
        (.more "sample_rate".toList (.number "16000".toList)
          (.last "channel".toList (.number "1".toList)))))
      (.last "extra".toList extra))
  | none => .object (.last "extra".toList extra)

/-- The member `tts`. -/
def ttsDoc (speaker format : List Char) : Doc :=
  .object (.more "speaker".toList (.string speaker)
    (.last "audio_config".toList
      (.object (.more "channel".toList (.number "1".toList)
        (.more "format".toList (.string format)
          (.last "sample_rate".toList (.number "24000".toList)))))))

/-- The members behind `strict_audit`. -/
def auditFields (recvTimeout : ℤ) (inputMod : List Char) : Fields :=
  .more "audit_response".toList (.string auditResponse)
    (.more "recv_timeout".toList (.number (decimal recvTimeout))
      (.last "input_mod".toList (.string inputMod)))

/-- The member `dialog`. -/
def dialogDoc (f : SessionFormat) (recvTimeout : ℤ) (inputMod : List Char) : Doc :=
  .object (.more "bot_name".toList (.string f.botName.toList)
    (.more "system_role".toList (.string systemRole)
      (.more "speaking_style".toList (.string speakingStyle)
        (.more "location".toList (.object (.last "city".toList (.string f.city.toList)))
          (.last "extra".toList
            (.object (.more "strict_audit".toList (.bool false)
              (if f.queryExit then
                .more "enable_user_query_exit".toList (.bool true)
                  (auditFields recvTimeout inputMod)
              else auditFields recvTimeout inputMod))))))))

/-- The request that opens a session. -/
def sessionDoc (f : SessionFormat) (asr : Option (List Char)) (speaker format : List Char)
    (recvTimeout : ℤ) (inputMod : List Char) : Doc :=
  .object (.more "asr".toList (asrDoc f asr) (.more "tts".toList (ttsDoc speaker format)
    (.last "dialog".toList (dialogDoc f recvTimeout inputMod))))

@[simp] theorem quote_shortest (s : List Char) :
    Style.shortest.quote s = '"' :: (s ++ ['"']) := by
  simp [Style.quote, Style.shortest]

@[simp] theorem comma_shortest : Style.shortest.comma = [] := rfl

@[simp] theorem colon_shortest : Style.shortest.colon = [] := rfl

theorem asrBytes_eq (f : SessionFormat) (asr : Option (List Char)) :
    asrBytes f (asr.map utf8) =
      utf8 ("\"asr\":".toList ++ (asrDoc f asr).text .shortest ++ [',']) := by
  cases asr with
  | none =>
    rw [Option.map_none, asrBytes]
    congr 1
    simp [asrDoc, Doc.text, Fields.text]
  | some format =>
    rw [Option.map_some, asrBytes, ← utf8_append, ← utf8_append]
    congr 1
    simp [asrDoc, Doc.text, Fields.text]

theorem ttsDoc_text (speaker : List Char) :
    (ttsDoc speaker "ogg_opus".toList).text .shortest =
      "\x7b\"speaker\":\"".toList ++ speaker ++
        "\",\"audio_config\":\x7b\"channel\":1,\"format\":\"ogg_opus\",".toList ++
        "\"sample_rate\":24000\x7d\x7d".toList := by
  simp [ttsDoc, Doc.text, Fields.text]

theorem auditFields_text (recvTimeout : ℤ) (inputMod : List Char) :
    (auditFields recvTimeout inputMod).text .shortest =
      "\"audit_response\":\"".toList ++ auditResponse ++ "\",".toList ++
        "\"recv_timeout\":".toList ++ decimal recvTimeout ++ ",\"input_mod\":\"".toList ++
        inputMod ++ "\"\x7d".toList := by
  simp [auditFields, Doc.text, Fields.text]

theorem dialogDoc_text (f : SessionFormat) (recvTimeout : ℤ) (inputMod : List Char) :
    (dialogDoc f recvTimeout inputMod).text .shortest =
      "\x7b\"bot_name\":\"".toList ++ f.botName.toList ++ "\",".toList ++
        "\"system_role\":\"".toList ++ systemRole ++ "\",".toList ++
        "\"speaking_style\":\"".toList ++ speakingStyle ++ "\",".toList ++
        "\"location\":\x7b\"city\":\"".toList ++ f.city.toList ++ "\"\x7d,".toList ++
        "\"extra\":\x7b\"strict_audit\":false,".toList ++
        (if f.queryExit then "\"enable_user_query_exit\":true,".toList else []) ++
        (auditFields recvTimeout inputMod).text .shortest ++ "\x7d".toList := by
  cases hexit : f.queryExit <;> simp [dialogDoc, Doc.text, Fields.text, hexit]

theorem sessionBytes_eq (f : SessionFormat) (asr : Option (List Char)) (speaker : List Char)
    (recvTimeout : ℤ) (inputMod : List Char) :
    sessionBytes f (asrBytes f (asr.map utf8)) (utf8 speaker) recvTimeout (utf8 inputMod) =
      utf8 ((sessionDoc f asr speaker "ogg_opus".toList recvTimeout inputMod).text .shortest) := by
  rw [asrBytes_eq, sessionBytes]
  simp only [← utf8_append]
  congr 1
  simp only [sessionDoc, Doc.text, Fields.text, quote_shortest, comma_shortest, colon_shortest,
    ttsDoc_text, dialogDoc_text, auditFields_text]
  -- the names and the ends of the members, cut out of the strings of the format
  have hasr : "\"asr\":".toList = '"' :: ("asr".toList ++ ['"', ':']) := rfl
  have htts : "\"tts\":".toList = '"' :: ("tts".toList ++ ['"', ':']) := rfl
  have hdialog : "\"dialog\":".toList = '"' :: ("dialog".toList ++ ['"', ':']) := rfl
  have hcomma : "\"sample_rate\":24000\x7d\x7d,".toList =
    "\"sample_rate\":24000\x7d\x7d".toList ++ [','] := rfl
  have hend : "\"\x7d\x7d\x7d".toList = "\"\x7d".toList ++ ("\x7d".toList ++ ['\x7d']) := rfl
  have hbrace : "\x7b".toList = ['\x7b'] := rfl
  simp only [hasr, htts, hdialog, hcomma, hend, hbrace, List.append_assoc, List.cons_append,
    List.nil_append]

/-! ### The strings of the request -/

/-- A string with nothing special in it. -/
abbrev Plain (s : List Char) : Prop := s.all (fun c => decide (Unescaped c)) = true

section

variable {P : List Char → Prop} (hP : ∀ s, Plain s → P s)

include hP

theorem asrDoc_all (f : SessionFormat) (asr : Option (List Char)) :
    (asrDoc f asr).All P ↔ ∀ s, asr = some s → P s := by
  have hextra : P "extra".toList ∧ P "end_smooth_window_ms".toList ∧
      IsNumber (decimal f.window) :=
    ⟨hP _ (by decide), hP _ (by decide), isNumber_decimal _⟩
  cases asr with
  | none => exact ⟨fun _ => nofun, fun _ => hextra⟩
  | some format =>
    have hrate : IsNumber "16000".toList := isNumber_decimal 16000
    have hone : IsNumber "1".toList := isNumber_decimal 1
    constructor
    · rintro ⟨⟨-, ⟨-, hformat⟩, -⟩, -⟩ s hs
      exact Option.some.inj hs ▸ hformat
    · intro h
      exact ⟨⟨hP _ (by decide), ⟨hP _ (by decide), h format rfl⟩, ⟨hP _ (by decide), hrate⟩,
        hP _ (by decide), hone⟩, hextra⟩

theorem ttsDoc_all {format : List Char} (hformat : P format) (speaker : List Char) :
    (ttsDoc speaker format).All P ↔ P speaker := by
  have hrate : IsNumber "24000".toList := isNumber_decimal 24000
  have hone : IsNumber "1".toList := isNumber_decimal 1
  constructor
  · rintro ⟨⟨-, hspeaker⟩, -⟩
    exact hspeaker
  · intro hspeaker
    exact ⟨⟨hP _ (by decide), hspeaker⟩, hP _ (by decide), ⟨hP _ (by decide), hone⟩,
      ⟨hP _ (by decide), hformat⟩, hP _ (by decide), hrate⟩

theorem auditFields_all (recvTimeout : ℤ) (inputMod : List Char) :
    (auditFields recvTimeout inputMod).All P ↔ P inputMod := by
  constructor
  · rintro ⟨-, -, -, hmod⟩
    exact hmod
  · intro hmod
    exact ⟨⟨hP _ (by decide), hP _ (by decide)⟩, ⟨hP _ (by decide), isNumber_decimal _⟩,
      hP _ (by decide), hmod⟩

theorem dialogDoc_all {f : SessionFormat} (hbot : P f.botName.toList) (hcity : P f.city.toList)
    (recvTimeout : ℤ) (inputMod : List Char) :
    (dialogDoc f recvTimeout inputMod).All P ↔ P inputMod := by
  have hextra : (if f.queryExit then
      Fields.more "enable_user_query_exit".toList (.bool true) (auditFields recvTimeout inputMod)
      else auditFields recvTimeout inputMod).All P ↔ P inputMod := by
    split
    · exact (and_iff_right ⟨hP _ (by decide), trivial⟩).trans
        (auditFields_all hP recvTimeout inputMod)
    · exact auditFields_all hP recvTimeout inputMod
  constructor
  · rintro ⟨-, -, -, -, -, -, hfields⟩
    exact hextra.mp hfields
  · intro hmod
    exact ⟨⟨hP _ (by decide), hbot⟩, ⟨hP _ (by decide), hP _ (by decide)⟩,
      ⟨hP _ (by decide), hP _ (by decide)⟩, ⟨hP _ (by decide), hP _ (by decide), hcity⟩,
      hP _ (by decide), ⟨hP _ (by decide), trivial⟩, hextra.mpr hmod⟩

theorem sessionDoc_all {f : SessionFormat} {format : List Char} (hbot : P f.botName.toList)
    (hcity : P f.city.toList) (hformat : P format) (asr : Option (List Char))
    (speaker : List Char) (recvTimeout : ℤ) (inputMod : List Char) :
    (sessionDoc f asr speaker format recvTimeout inputMod).All P ↔
      (∀ s, asr = some s → P s) ∧ P speaker ∧ P inputMod := by
  have hasr := asrDoc_all hP f asr
  have htts := ttsDoc_all hP hformat speaker
  have hdialog := dialogDoc_all hP hbot hcity recvTimeout inputMod
  constructor
  · rintro ⟨⟨-, ha⟩, ⟨-, ht⟩, -, hd⟩
    exact ⟨hasr.mp ha, htts.mp ht, hdialog.mp hd⟩
  · rintro ⟨ha, ht, hd⟩
    exact ⟨⟨hP _ (by decide), hasr.mpr ha⟩, ⟨hP _ (by decide), htts.mpr ht⟩, hP _ (by decide),
      hdialog.mpr hd⟩

end

/-! ### The buffers -/

/-- The characters of a number are ASCII, and none of their bytes is zero. -/
theorem digit_bytes {n : ℤ} {c : Char} (hc : c ∈ decimal n) :
    c.toNat < 128 ∧ 0 ∉ String.utf8EncodeChar c := by
  have hall : ∀ k, k < 10 → (Nat.digitChar k).toNat < 128 ∧
      0 ∉ String.utf8EncodeChar (Nat.digitChar k) := by decide
  rw [decimal, List.mem_append] at hc
  rcases hc with hc | hc
  · split at hc
    · rw [List.mem_singleton.mp hc]
      decide
    · exact absurd hc List.not_mem_nil
  · have hdigit := (isDigits_toDigits n.natAbs).2 c hc
    have hrange : 48 ≤ c.toNat ∧ c.toNat ≤ 57 := by
      simp only [Char.isDigit, Bool.and_eq_true, decide_eq_true_eq] at hdigit
      exact hdigit
    -- one of ten characters, by its distance from '0'
    have hchar : Nat.digitChar (c.toNat - 48) = c :=
      char_ext (by rw [Nat.toNat_digitChar_of_lt_ten (by omega)]; omega)
    exact hchar ▸ hall (c.toNat - 48) (by omega)

theorem length_utf8_decimal (n : ℤ) : (utf8 (decimal n)).length = (decimal n).length :=
  (length_utf8_eq_iff _).mpr fun _ hc => (digit_bytes hc).1

theorem zero_not_mem_decimal (n : ℤ) : 0 ∉ utf8 (decimal n) := by
  intro hzero
  obtain ⟨c, hc, hbyte⟩ := List.mem_flatMap.mp hzero
  exact (digit_bytes hc).2 hbyte

theorem length_decimal_le {n : ℤ} (h : 10 ≤ n ∧ n ≤ 120) : (decimal n).length ≤ 3 := by
  have hlen : (Nat.toDigits 10 n.natAbs).length ≤ 3 :=
    (Nat.length_toDigits_le_iff (by decide) (by decide)).mpr (by omega)
  rw [decimal, if_neg (by omega)]
  exact hlen

theorem zero_not_mem_asrBytes (f : SessionFormat) {asr : Option Bytes}
    (h : ∀ s, asr = some s → 0 ∉ s) : 0 ∉ asrBytes f asr := by
  have hwindow := zero_not_mem_decimal f.window
  cases asr with
  | none =>
    simp only [asrBytes, utf8_append, List.mem_append, not_or]
    exact ⟨⟨by decide, hwindow⟩, by decide⟩
  | some s =>
    simp only [asrBytes, utf8_append, List.mem_append, not_or]
    exact ⟨⟨by decide, h s rfl⟩, ⟨⟨by decide, by decide⟩, hwindow⟩, by decide⟩

theorem zero_not_mem_sessionBytes {f : SessionFormat} (hbot : 0 ∉ utf8 f.botName.toList)
    (hcity : 0 ∉ utf8 f.city.toList) {asrBlock speaker inputMod : Bytes} (hasr : 0 ∉ asrBlock)
    (hspeaker : 0 ∉ speaker) (hmod : 0 ∉ inputMod) (recvTimeout : ℤ) :
    0 ∉ sessionBytes f asrBlock speaker recvTimeout inputMod := by
  have htimeout := zero_not_mem_decimal recvTimeout
  have hexit :
      0 ∉ utf8 (if f.queryExit then "\"enable_user_query_exit\":true,".toList else []) := by
    split <;> decide
  simp only [sessionBytes, utf8_append, List.mem_append, not_or]
  and_intros <;> first | assumption | decide

theorem length_asrBytes (f : SessionFormat) (s : Bytes) :
    (asrBytes f (some s)).length = (asrBytes f (some [])).length + s.length := by
  simp only [asrBytes, List.length_append, List.length_nil]
  omega

/-- The length of a payload, by that of one with empty strings. -/
theorem length_sessionBytes (f : SessionFormat) (asrBlock speaker : Bytes) (recvTimeout : ℤ)
    (inputMod : Bytes) :
    (sessionBytes f asrBlock speaker recvTimeout inputMod).length + 1 =
      (sessionBytes f [] [] 0 []).length + asrBlock.length + speaker.length +
        (decimal recvTimeout).length + inputMod.length := by
  -- the 1 on the left is the digit that the 0 of the empty payload takes
  have hzero : (decimal 0).length = 1 := rfl
  simp only [sessionBytes, utf8_append, List.length_append, List.length_nil, length_utf8_decimal,
    hzero]
  omega

section

variable {f : SessionFormat} {asr : Option CString} {speaker inputMod : CString} {recvTimeout : ℤ}
  {asrText : Option (List Char)} {speakerText modText : List Char}

/-- Where the buffers are large enough, the payload is the text of the request
in the shortest style. -/
theorem sessionJson_chars (hbot : 0 ∉ utf8 f.botName.toList) (hcity : 0 ∉ utf8 f.city.toList)
    (hasr : asr.map CString.chars = asrText.map utf8) (hspeaker : speaker.chars = utf8 speakerText)
    (hmod : inputMod.chars = utf8 modText)
    (hblock : (asrBytes f (asr.map CString.chars)).length < 256)
    (hlen : (sessionBytes f (asrBytes f (asr.map CString.chars)) speaker.chars recvTimeout
      inputMod.chars).length < 2048) :
    (sessionJson f asr speaker recvTimeout inputMod).chars =
      utf8 ((sessionDoc f asrText speakerText "ogg_opus".toList recvTimeout modText).text
        .shortest) := by
  have hfree : 0 ∉ asrBytes f (asr.map CString.chars) := by
    refine zero_not_mem_asrBytes f fun s hs => ?_
    obtain ⟨t, -, rfl⟩ := Option.map_eq_some_iff.mp hs
    exact t.nulFree
  rw [sessionJson, Desktop.snprintf_chars hfree hblock, Desktop.snprintf_chars
    (zero_not_mem_sessionBytes hbot hcity hfree speaker.nulFree inputMod.nulFree recvTimeout) hlen,
    hasr, hspeaker, hmod, sessionBytes_eq]

/-- **The payload is the request just if nothing in the strings put into it is
special.** -/
theorem sessionJson_encodes_iff (hbot : Plain f.botName.toList) (hcity : Plain f.city.toList)
    (hbot' : 0 ∉ utf8 f.botName.toList) (hcity' : 0 ∉ utf8 f.city.toList)
    (hasr : asr.map CString.chars = asrText.map utf8) (hspeaker : speaker.chars = utf8 speakerText)
    (hmod : inputMod.chars = utf8 modText)
    (hblock : (asrBytes f (asr.map CString.chars)).length < 256)
    (hlen : (sessionBytes f (asrBytes f (asr.map CString.chars)) speaker.chars recvTimeout
      inputMod.chars).length < 2048) :
    Encodes (sessionJson f asr speaker recvTimeout inputMod).chars
        (sessionDoc f asrText speakerText "ogg_opus".toList recvTimeout modText).value ↔
      (∀ s, asrText = some s → ∀ c ∈ s, Unescaped c) ∧ (∀ c ∈ speakerText, Unescaped c) ∧
        ∀ c ∈ modText, Unescaped c := by
  -- the numbers are numbers whatever the strings are
  have hnumbers := (sessionDoc_all (fun _ _ => trivial) trivial trivial trivial asrText speakerText
    recvTimeout modText :
      (sessionDoc f asrText speakerText "ogg_opus".toList recvTimeout modText).All (fun _ => True) ↔
        _).mpr ⟨fun _ _ => trivial, trivial, trivial⟩
  rw [sessionJson_chars hbot' hcity' hasr hspeaker hmod hblock hlen, encodes_utf8_iff,
    Doc.denotes_shortest_iff hnumbers]
  exact sessionDoc_all (fun _ => forall_unescaped) (forall_unescaped hbot)
    (forall_unescaped hcity) (forall_unescaped (by decide)) asrText speakerText recvTimeout modText

end

/-! ### The firmware -/

/-- The part of `doubao_ws_config_t` that the request is made of. -/
structure DoubaoWsConfig where
  asrAudioFormat : Option CString
  ttsSpeaker : Option CString
  inputMod : Option CString
  recvTimeout : ℤ

/-- A string of the program. -/
def literal (s : String) (h : 0 ∉ utf8 s.toList) : CString := ⟨utf8 s.toList, h⟩

namespace DoubaoWsConfig

def format : SessionFormat := ⟨500, "Jason", "上海", true⟩

variable (config : DoubaoWsConfig)

/-- `config->asr_audio_format && strlen(config->asr_audio_format) > 0`. -/
def asr : Option CString := config.asrAudioFormat.filter fun s => s.strlen > 0

def speaker : CString :=
  config.ttsSpeaker.getD (literal "zh_male_yunzhou_jupiter_bigtts" (by decide))

def mod : CString := config.inputMod.getD (literal "audio" (by decide))

/-- `build_start_session_json`. -/
def buildStartSessionJson : CString :=
  sessionJson format config.asr config.speaker config.recvTimeout config.mod

/-- **The firmware's payload.** Where the two buffers are large enough, it is the
request just if nothing in the strings is special. -/
theorem startSession_encodes_iff {asrText : Option (List Char)}
    {speakerText modText : List Char}
    (hasr : config.asr.map CString.chars = asrText.map utf8)
    (hspeaker : config.speaker.chars = utf8 speakerText)
    (hmod : config.mod.chars = utf8 modText)
    (hblock : (asrBytes format (config.asr.map CString.chars)).length < 256)
    (hlen : (sessionBytes format (asrBytes format (config.asr.map CString.chars))
      config.speaker.chars config.recvTimeout config.mod.chars).length < 2048) :
    Encodes config.buildStartSessionJson.chars
        (sessionDoc format asrText speakerText "ogg_opus".toList config.recvTimeout modText).value ↔
      (∀ s, asrText = some s → ∀ c ∈ s, Unescaped c) ∧ (∀ c ∈ speakerText, Unescaped c) ∧
        ∀ c ∈ modText, Unescaped c :=
  sessionJson_encodes_iff (by decide) (by decide) (by decide) (by decide) hasr hspeaker hmod hblock
    hlen

/-- The configuration of `main_fsm_task`, with the speaker left to the default. -/
def default : DoubaoWsConfig := ⟨none, none, some (literal "audio" (by decide)), 10⟩

theorem startSession_encodes_iff_default :
    Encodes default.buildStartSessionJson.chars
      (sessionDoc format none "zh_male_yunzhou_jupiter_bigtts".toList "ogg_opus".toList 10
        "audio".toList).value :=
  (default.startSession_encodes_iff rfl rfl rfl (by decide +kernel) (by decide +kernel)).mpr
    ⟨nofun, forall_unescaped (by decide), forall_unescaped (by decide)⟩

end DoubaoWsConfig

/-! ### The desktop client -/

namespace Desktop

/-- The part of `doubao_client_t` that the request is made of, as `main` and
`client_init` fill it. -/
structure SessionSettings where
  asrAudioFormat : CString
  inputMod : CString
  recvTimeout : ℤ
  asr_fits : asrAudioFormat.strlen ≤ 31
  mod_fits : inputMod.strlen ≤ 31
  timeout_range : 10 ≤ recvTimeout ∧ recvTimeout ≤ 120

namespace SessionSettings

def format : SessionFormat := ⟨1500, "豆包", "北京", false⟩

/-- `TTS_SPEAKER`. -/
def ttsSpeaker : CString := literal "zh_female_vv_jupiter_bigtts" (by decide)

variable (s : SessionSettings)

/-- `(strlen(client->asr_audio_format) > 0) ? client->asr_audio_format : NULL`. -/
def asr : Option CString := if s.asrAudioFormat.strlen > 0 then some s.asrAudioFormat else none

/-- `build_start_session_json`. -/
def buildStartSessionJson : CString := sessionJson format s.asr ttsSpeaker s.recvTimeout s.inputMod

/-- **The desktop client's payload.** Whatever mode was asked for, it is the
request just if nothing in the mode and in the format is special. -/
theorem clientStartSession_encodes_iff {asrText : Option (List Char)} {modText : List Char}
    (hasr : s.asr.map CString.chars = asrText.map utf8) (hmod : s.inputMod.chars = utf8 modText) :
    Encodes s.buildStartSessionJson.chars
        (sessionDoc format asrText "zh_female_vv_jupiter_bigtts".toList "ogg_opus".toList
          s.recvTimeout modText).value ↔
      (∀ t, asrText = some t → ∀ c ∈ t, Unescaped c) ∧ ∀ c ∈ modText, Unescaped c := by
  have hempty : (asrBytes format (some [])).length = 105 ∧ (asrBytes format none).length = 46 ∧
      (sessionBytes format [] [] 0 []).length = 445 := by decide +kernel
  have hspeaker : ttsSpeaker.chars.length = 27 := by decide
  have hdigits := length_decimal_le s.timeout_range
  have hsession := length_sessionBytes format (asrBytes format (s.asr.map CString.chars))
    ttsSpeaker.chars s.recvTimeout s.inputMod.chars
  have hasrLen : (asrBytes format (s.asr.map CString.chars)).length ≤ 136 := by
    have hfits := s.asr_fits
    rw [asr]
    split
    · rw [Option.map_some, length_asrBytes, hempty.1]
      exact Nat.add_le_add_left hfits 105
    · exact Nat.le_trans (Nat.le_of_eq hempty.2.1) (by decide)
  have hmodLen : s.inputMod.chars.length ≤ 31 := s.mod_fits
  have hplain : ∀ c ∈ "zh_female_vv_jupiter_bigtts".toList, Unescaped c :=
    forall_unescaped (by decide)
  rw [buildStartSessionJson, sessionJson_encodes_iff (by decide) (by decide) (by decide)
    (by decide) hasr (show ttsSpeaker.chars = utf8 "zh_female_vv_jupiter_bigtts".toList from rfl)
    hmod (by omega) (by omega)]
  exact ⟨fun h => ⟨h.1, h.2.2⟩, fun h => ⟨h.1, hplain, h.2⟩⟩

/-- The settings of `--mod s` on the microphone path. -/
def withMod (mod : CString) (h : mod.strlen ≤ 31) : SessionSettings where
  asrAudioFormat := literal "speech_opus" (by decide)
  inputMod := mod
  recvTimeout := 10
  asr_fits := by decide
  mod_fits := h
  timeout_range := by decide

/-- The mode `text` is carried, and one with a quotation mark is not. -/
theorem clientStartSession_encodes_iff_text :
    Encodes (withMod (literal "text" (by decide)) (by decide)).buildStartSessionJson.chars
        (sessionDoc format (some "speech_opus".toList) "zh_female_vv_jupiter_bigtts".toList
          "ogg_opus".toList 10 "text".toList).value ∧
      ¬ Encodes (withMod (literal "te\"xt" (by decide)) (by decide)).buildStartSessionJson.chars
        (sessionDoc format (some "speech_opus".toList) "zh_female_vv_jupiter_bigtts".toList
          "ogg_opus".toList 10 "te\"xt".toList).value := by
  constructor
  · refine (clientStartSession_encodes_iff _ rfl rfl).mpr ⟨?_, forall_unescaped (by decide)⟩
    rintro _ ⟨⟩
    exact forall_unescaped (by decide)
  · intro h
    have hplain := ((clientStartSession_encodes_iff _ rfl rfl).mp h).2
    exact absurd (hplain '"' (by decide)) (by decide)

end SessionSettings

end Desktop

end BoxDoubao
