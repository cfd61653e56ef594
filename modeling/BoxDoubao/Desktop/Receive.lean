import BoxDoubao.Lib.CMemory
import BoxDoubao.Lib.Transducer

/-!
# Reassembly in the desktop client

`LWS_CALLBACK_CLIENT_RECEIVE` of `lws_callback`: libwebsockets hands over a
message in fragments and marks the last one, the callback appends each to
`recv_buf` and calls `on_recv` at the last. The buffer and a fragment are
objects of one 64-bit address space, so their sizes add up to less than
`2 ^ 63`, no sum or product of the callback wraps, and sizes are plain numbers
here.

When `realloc` fails the callback leaves before it looks at the mark. `Gathers`
links the buffer to the bytes accepted so far, and `gatherer` is what the
callback does to these bytes when it is told which fragments were refused;
`run_lwsReceive` connects the two. Since a refused last fragment leaves the
message open, what is delivered is `deliver` of the messages, which carries the
accepted bytes on. `deliver_eq_iff` compares that with whole messages, and
`lwsReceive_whole_iff` is the result about the callback.
-/

namespace BoxDoubao

open CMemory

namespace Desktop

/-- The receiving part of `doubao_client_t`. -/
structure ReceiveState where
  recvBuf : Bytes
  recvBufLen : ℕ
  recvBufCap : ℕ
  onRecv : Bool
  deriving DecidableEq

/-- One call with `LWS_CALLBACK_CLIENT_RECEIVE`: the bytes `in`, `len`, the
answer of `lws_is_final_fragment`, and whether `realloc` succeeds. -/
structure Fragment where
  bytes : Bytes
  final : Bool
  realloc : Bool
  deriving DecidableEq

/-- `CLIENT_RECV_BUF_SIZE`. -/
def clientRecvBufSize : ℕ := 256 * 1024

/-- The client after `client_init`, whose `malloc` succeeded, and
`client_set_recv_callback`. -/
def ReceiveState.init : ReceiveState where
  recvBuf := List.replicate clientRecvBufSize 0
  recvBufLen := 0
  recvBufCap := clientRecvBufSize
  onRecv := true

/-- The capacity asked for: twice the need, at least 8192. -/
def newCap (needed : ℕ) : ℕ := if needed * 2 < 8192 then 8192 else needed * 2

/-- Make room for `needed` bytes; `none` when `realloc` fails. -/
def ReceiveState.reserve (c : ReceiveState) (realloc : Bool) (needed : ℕ) :
    Option ReceiveState :=
  if needed > c.recvBufCap then
    if realloc then
      some { c with
        recvBuf := reallocBytes c.recvBuf (newCap needed)
        recvBufCap := newCap needed }
    else none
  else some c

/-- `lws_callback` with `LWS_CALLBACK_CLIENT_RECEIVE`, and what it calls
`on_recv` with. It fails when the copy leaves the buffer. -/
def lwsReceive (c : ReceiveState) (f : Fragment) : Option (ReceiveState × List Bytes) :=
  match c.reserve f.realloc (c.recvBufLen + f.bytes.length) with
  | none => some (c, [])
  | some c =>
    match memcpy c.recvBuf c.recvBufLen f.bytes with
    | .error _ => none
    | .ok buf =>
      let len := c.recvBufLen + f.bytes.length
      if f.final then
        some ({ c with recvBuf := buf, recvBufLen := 0 },
          if c.onRecv then [buf.take len] else [])
      else some ({ c with recvBuf := buf, recvBufLen := len }, [])

/-- The callback over a history of fragments. -/
def lwsReceiver : Transducer ReceiveState Fragment Bytes where
  step := lwsReceive

/-- There is no room for the fragment and `realloc` fails. -/
def ReceiveState.reallocFails (c : ReceiveState) (f : Fragment) : Bool :=
  (c.reserve f.realloc (c.recvBufLen + f.bytes.length)).isNone

/-! ### What the buffer holds -/

/-- The receive buffer is an object of `recv_buf_cap` bytes whose first
`recv_buf_len` bytes are `acc`, and a callback is set. -/
structure Gathers (c : ReceiveState) (acc : Bytes) : Prop where
  length_recvBuf : c.recvBuf.length = c.recvBufCap
  len_eq : c.recvBufLen = acc.length
  len_le : c.recvBufLen ≤ c.recvBufCap
  content : c.recvBuf.take c.recvBufLen = acc
  callback : c.onRecv = true

namespace Gathers

variable {c c' : ReceiveState} {acc : Bytes}

theorem of_empty (hbuf : c.recvBuf.length = c.recvBufCap) (hempty : c.recvBufLen = 0)
    (hcb : c.onRecv = true) : Gathers c [] := by
  refine ⟨hbuf, hempty, ?_, ?_, hcb⟩
  · rw [hempty]
    exact Nat.zero_le _
  · rw [hempty, List.take_zero]

theorem le_newCap (needed : ℕ) : needed ≤ newCap needed := by
  unfold newCap
  split <;> omega

/-- Making room keeps the content and leaves room for what it was made for. -/
theorem reserve (h : Gathers c acc) {realloc : Bool} {needed : ℕ}
    (hneeded : c.recvBufLen ≤ needed) (hr : c.reserve realloc needed = some c') :
    Gathers c' acc ∧ needed ≤ c'.recvBufCap := by
  unfold ReceiveState.reserve at hr
  by_cases hn : needed > c.recvBufCap
  · rw [if_pos hn] at hr
    cases realloc with
    | false => cases hr
    | true =>
      rw [if_pos rfl, Option.some.injEq] at hr
      subst hr
      have hcap : c.recvBufLen ≤ newCap needed := le_trans hneeded (le_newCap needed)
      refine ⟨⟨length_reallocBytes _ _, h.len_eq, hcap, ?_, h.callback⟩, le_newCap needed⟩
      change (reallocBytes c.recvBuf (newCap needed)).take c.recvBufLen = acc
      rw [take_reallocBytes hcap (by rw [h.length_recvBuf]; exact h.len_le), h.content]
  · rw [if_neg hn, Option.some.injEq] at hr
    subst hr
    exact ⟨h, not_lt.mp hn⟩

end Gathers

/-! ### The callback in terms of the bytes accepted -/

/-- What the callback does to the bytes it has accepted, for a fragment and
whether it was refused. -/
def gather (acc : Bytes) : Fragment × Bool → Bytes × List Bytes
  | (_, true) => (acc, [])
  | (f, false) => if f.final then ([], [acc ++ f.bytes]) else (acc ++ f.bytes, [])

def gatherer : Transducer Bytes (Fragment × Bool) Bytes where
  step acc x := some (gather acc x)

theorem gatherer_cons {acc acc₁ acc' : Bytes} {x : Fragment × Bool}
    {xs : List (Fragment × Bool)} {o calls : List Bytes} (hstep : gather acc x = (acc₁, o))
    (hrun : gatherer.run acc₁ xs = some (acc', calls)) :
    gatherer.run acc (x :: xs) = some (acc', o ++ calls) :=
  Transducer.run_cons (congrArg some hstep) hrun

/-- The step lemma. -/
theorem lwsReceive_gather {c : ReceiveState} {acc : Bytes} (h : Gathers c acc) (f : Fragment) :
    ∃ c', lwsReceive c f = some (c', (gather acc (f, c.reallocFails f)).2) ∧
      Gathers c' (gather acc (f, c.reallocFails f)).1 := by
  unfold lwsReceive ReceiveState.reallocFails
  cases hr : c.reserve f.realloc (c.recvBufLen + f.bytes.length) with
  | none => exact ⟨c, rfl, h⟩
  | some c₁ =>
    obtain ⟨h₁, hroom⟩ := h.reserve (Nat.le_add_right _ _) hr
    have hlen : c₁.recvBufLen = c.recvBufLen := h₁.len_eq.trans h.len_eq.symm
    have hin : c₁.recvBufLen + f.bytes.length ≤ c₁.recvBuf.length := by
      rw [h₁.length_recvBuf, hlen]
      exact hroom
    -- the buffer after the copy
    have hbuf : (splice c₁.recvBuf c₁.recvBufLen f.bytes).length = c₁.recvBufCap :=
      (length_splice hin).trans h₁.length_recvBuf
    have hcontent : (splice c₁.recvBuf c₁.recvBufLen f.bytes).take
        (c₁.recvBufLen + f.bytes.length) = acc ++ f.bytes := by
      rw [take_splice hin, h₁.content]
    simp only [memcpy_of_le hin, Option.isNone_some, gather]
    by_cases hfinal : f.final = true
    · rw [if_pos hfinal, if_pos hfinal, h₁.callback, if_pos rfl, hcontent]
      exact ⟨_, rfl, Gathers.of_empty hbuf rfl rfl⟩
    · rw [if_neg hfinal, if_neg hfinal]
      refine ⟨_, rfl, hbuf, ?_, ?_, hcontent, h₁.callback⟩
      · rw [List.length_append, ← h₁.len_eq]
      · rw [hlen]
        exact hroom

/-- The run lemma: the callback never leaves its buffer, and delivers what
`gatherer` does. -/
theorem run_lwsReceive {c : ReceiveState} {acc : Bytes} (h : Gathers c acc)
    (es : List Fragment) : ∃ c' acc' calls, lwsReceiver.run c es = some (c', calls) ∧
      gatherer.run acc (es.zip (lwsReceiver.observe ReceiveState.reallocFails c es)) =
        some (acc', calls) ∧ Gathers c' acc' := by
  refine Transducer.run_observed Gathers ReceiveState.reallocFails ?_ es h
  intro c acc f h
  obtain ⟨c', hstep, h'⟩ := lwsReceive_gather h f
  exact ⟨c', _, _, hstep, rfl, h'⟩

/-! ### Messages -/

/-- The fragments of one message, with what became of each; `last` is the one
marked final. -/
structure Message where
  front : List (Fragment × Bool)
  last : Fragment × Bool

/-- The messages of a history, behind the fragments `front` of one that is not
complete yet. -/
def messagesFrom : List (Fragment × Bool) → List (Fragment × Bool) → List Message
  | _, [] => []
  | front, x :: xs =>
    if x.1.final then ⟨front, x⟩ :: messagesFrom [] xs else messagesFrom (front ++ [x]) xs

/-- The messages received from `c` on. -/
def received (c : ReceiveState) (es : List Fragment) : List Message :=
  messagesFrom [] (es.zip (lwsReceiver.observe ReceiveState.reallocFails c es))

/-- The bytes of the fragments that were not refused. -/
def acceptedBytes (xs : List (Fragment × Bool)) : Bytes :=
  xs.flatMap fun x => if x.2 then [] else x.1.bytes

namespace Message

variable (m : Message)

/-- All fragments of the message, joined. -/
def payload : Bytes := m.front.flatMap (·.1.bytes) ++ m.last.1.bytes

/-- A reallocation failed for one of its fragments. -/
def failed : Bool := m.front.any (·.2) || m.last.2

/-- The last fragment was refused. -/
def lastFailed : Bool := m.last.2

/-- What is accepted of the message before its last fragment. -/
def held : Bytes := acceptedBytes m.front

/-- What should be delivered. -/
def expected : Option Bytes := if m.failed then none else some m.payload

end Message

/-- What the callback delivers of messages: a message whose last fragment was
refused stays open, and what was accepted of it goes before the next. -/
def deliver : Bytes → List Message → List Bytes
  | _, [] => []
  | acc, m :: ms =>
    if m.lastFailed then deliver (acc ++ m.held) ms
    else (acc ++ m.held ++ m.last.1.bytes) :: deliver [] ms

@[simp] theorem acceptedBytes_nil : acceptedBytes [] = [] := rfl

theorem acceptedBytes_append (xs ys : List (Fragment × Bool)) :
    acceptedBytes (xs ++ ys) = acceptedBytes xs ++ acceptedBytes ys := List.flatMap_append

theorem acceptedBytes_of_all {xs : List (Fragment × Bool)} (h : xs.any (·.2) = false) :
    acceptedBytes xs = xs.flatMap (·.1.bytes) := by
  induction xs with
  | nil => rfl
  | cons x xs ih =>
    rw [List.any_cons, Bool.or_eq_false_iff] at h
    rw [acceptedBytes, List.flatMap_cons, List.flatMap_cons, h.1]
    exact congrArg (x.1.bytes ++ ·) (ih h.2)

/-- The gatherer delivers the messages. -/
theorem gatherer_run (acc : Bytes) (front xs : List (Fragment × Bool)) :
    ∃ acc', gatherer.run (acc ++ acceptedBytes front) xs =
      some (acc', deliver acc (messagesFrom front xs)) := by
  induction xs generalizing acc front with
  | nil => exact ⟨_, rfl⟩
  | cons x xs ih =>
    obtain ⟨f, refused⟩ := x
    unfold messagesFrom
    by_cases hfinal : f.final = true
    · rw [if_pos hfinal]
      cases refused with
      | true =>
        -- the message stays open
        obtain ⟨acc', hrun⟩ := ih (acc ++ acceptedBytes front) []
        rw [acceptedBytes_nil, List.append_nil] at hrun
        exact ⟨acc', gatherer_cons rfl hrun⟩
      | false =>
        obtain ⟨acc', hrun⟩ := ih [] []
        have hgather : gather (acc ++ acceptedBytes front) (f, false) =
            ([], [acc ++ acceptedBytes front ++ f.bytes]) := if_pos hfinal
        exact ⟨acc', gatherer_cons hgather hrun⟩
    · rw [if_neg hfinal]
      obtain ⟨acc', hrun⟩ := ih acc (front ++ [(f, refused)])
      have hgather : gather (acc ++ acceptedBytes front) (f, refused) =
          (acc ++ acceptedBytes (front ++ [(f, refused)]), []) := by
        rw [acceptedBytes_append, ← List.append_assoc]
        cases refused with
        | true => exact congrArg (·, []) (List.append_nil _).symm
        | false =>
          have hbytes : acceptedBytes [(f, false)] = f.bytes := List.append_nil f.bytes
          rw [hbytes]
          exact if_neg hfinal
      exact ⟨acc', gatherer_cons hgather hrun⟩

/-! ### When messages are delivered whole -/

/-- Every message for which a reallocation failed fails at its last fragment,
and when something of it was accepted no later message gets to its end. -/
def Clean (ms : List Message) : Prop :=
  (∀ m ∈ ms, m.failed = true → m.lastFailed = true) ∧
    ms.Pairwise fun m later => m.lastFailed = true → m.held ≠ [] → later.lastFailed = true

theorem clean_cons {m : Message} {ms : List Message} : Clean (m :: ms) ↔
    (m.failed = true → m.lastFailed = true) ∧
      (m.lastFailed = true → m.held ≠ [] → ∀ later ∈ ms, later.lastFailed = true) ∧
      Clean ms := by
  unfold Clean
  rw [List.forall_mem_cons, List.pairwise_cons]
  constructor
  · rintro ⟨⟨hm, hms⟩, hpair, hpairs⟩
    exact ⟨hm, fun hlast hheld later hmem => hpair later hmem hlast hheld, hms, hpairs⟩
  · rintro ⟨hm, hpair, hms, hpairs⟩
    exact ⟨⟨hm, hms⟩, fun later hmem hlast hheld => hpair hlast hheld later hmem, hpairs⟩

namespace Message

variable {m : Message}

theorem failed_of_lastFailed (h : m.lastFailed = true) : m.failed = true := by
  unfold lastFailed at h
  rw [failed, h, Bool.or_true]

/-- Of a message without a refused fragment everything is accepted. -/
theorem payload_of_not_failed (h : m.failed = false) : m.held ++ m.last.1.bytes = m.payload := by
  rw [failed, Bool.or_eq_false_iff] at h
  rw [held, acceptedBytes_of_all h.1, payload]

end Message

/-- There is a call for every message that gets to its end. -/
theorem length_expected_le (acc : Bytes) (ms : List Message) :
    (ms.filterMap Message.expected).length ≤ (deliver acc ms).length := by
  induction ms generalizing acc with
  | nil => exact le_rfl
  | cons m ms ih =>
    unfold deliver
    cases hlast : m.lastFailed with
    | true =>
      have hnone : m.expected = none := if_pos (Message.failed_of_lastFailed hlast)
      rw [List.filterMap_cons_none hnone, if_pos rfl]
      exact ih _
    | false =>
      rw [if_neg Bool.false_ne_true, List.filterMap_cons, List.length_cons]
      cases m.expected with
      | none => exact le_trans (ih []) (Nat.le_succ _)
      | some p => exact Nat.succ_le_succ (ih [])

/-- With `acc` left of earlier messages, the calls are the whole messages
exactly if the messages are clean and, unless `acc` is empty, none of them gets
to its end. -/
theorem deliver_eq_iff (acc : Bytes) (ms : List Message) :
    deliver acc ms = ms.filterMap Message.expected ↔
      Clean ms ∧ (acc ≠ [] → ∀ m ∈ ms, m.lastFailed = true) := by
  induction ms generalizing acc with
  | nil =>
    refine iff_of_true rfl ⟨⟨?_, List.Pairwise.nil⟩, ?_⟩
    · intro m hm
      exact absurd hm List.not_mem_nil
    · intro _ m hm
      exact absurd hm List.not_mem_nil
  | cons m ms ih =>
    rw [clean_cons, List.forall_mem_cons]
    unfold deliver
    cases hlast : m.lastFailed with
    | true =>
      -- the message stays open: its bytes join those left before
      have hnone : m.expected = none := if_pos (Message.failed_of_lastFailed hlast)
      have happ : acc ++ m.held ≠ [] ↔ acc ≠ [] ∨ m.held ≠ [] := by
        rw [Ne, List.append_eq_nil_iff, not_and_or]
      rw [if_pos rfl, List.filterMap_cons_none hnone, ih, happ]
      tauto
    | false =>
      rw [if_neg Bool.false_ne_true]
      cases hfailed : m.failed with
      | true =>
        -- a message that is delivered in part is one call too many
        have hnone : m.expected = none := if_pos hfailed
        rw [List.filterMap_cons_none hnone]
        refine iff_of_false ?_ (fun h => Bool.false_ne_true (h.1.1 rfl))
        intro heq
        have hlen := congrArg List.length heq
        have hle := length_expected_le [] ms
        rw [List.length_cons] at hlen
        omega
      | false =>
        have hsome : m.expected = some m.payload := if_neg (Bool.eq_false_iff.mp hfailed)
        rw [List.filterMap_cons_some hsome, List.cons.injEq, ih, List.append_assoc,
          Message.payload_of_not_failed hfailed, List.append_left_eq_self]
        simp only [Bool.false_eq_true, false_implies, true_and, ne_eq, not_true_eq_false,
          and_true, false_and, not_not, imp_false, not_false_eq_true]
        exact and_comm

/-- What the reassembly is for: in every state on the way the buffer is within
its capacity, and `on_recv` is called, in order, with each message for
which no reallocation failed, as it was sent, and with nothing else. -/
def DeliversWhole (c : ReceiveState) (es : List Fragment) : Prop :=
  (∀ es₁ es₂, es = es₁ ++ es₂ → ∃ c₁ calls, lwsReceiver.run c es₁ = some (c₁, calls) ∧
      c₁.recvBufLen ≤ c₁.recvBufCap ∧ c₁.recvBuf.length = c₁.recvBufCap) ∧
    ∃ c', lwsReceiver.run c es = some (c', (received c es).filterMap Message.expected)

/-- What the callback delivers is `deliver` of the messages, within the buffer
throughout. -/
theorem deliversWhole_iff {c : ReceiveState} (h : Gathers c []) (es : List Fragment) :
    DeliversWhole c es ↔
      deliver [] (received c es) = (received c es).filterMap Message.expected := by
  obtain ⟨c', acc', calls, hrun, hgather, -⟩ := run_lwsReceive h es
  obtain ⟨acc'', hdeliver⟩ := gatherer_run [] []
    (es.zip (lwsReceiver.observe ReceiveState.reallocFails c es))
  rw [acceptedBytes_nil, List.append_nil, hgather, Option.some.injEq, Prod.mk.injEq] at hdeliver
  have hcalls : calls = deliver [] (received c es) := hdeliver.2
  constructor
  · rintro ⟨-, c'', hrun'⟩
    rw [hrun, Option.some.injEq, Prod.mk.injEq] at hrun'
    exact hcalls.symm.trans hrun'.2
  · intro heq
    refine ⟨?_, c', ?_⟩
    · intro es₁ es₂ hsplit
      obtain ⟨c₁, acc₁, calls₁, hrun₁, -, h₁⟩ := run_lwsReceive h es₁
      exact ⟨c₁, calls₁, hrun₁, h₁.len_le, h₁.length_recvBuf⟩
    · rw [hrun, hcalls, heq]

/-- **When the desktop client delivers whole messages or nothing.** Exactly when
every message for which a reallocation failed fails at its last fragment and,
if something of it was accepted before, no later message gets to its end. -/
theorem lwsReceive_whole_iff {c : ReceiveState} (hbuf : c.recvBuf.length = c.recvBufCap)
    (hempty : c.recvBufLen = 0) (hcb : c.onRecv = true) (es : List Fragment) :
    DeliversWhole c es ↔ Clean (received c es) := by
  rw [deliversWhole_iff (Gathers.of_empty hbuf hempty hcb), deliver_eq_iff]
  exact and_iff_left (fun h => absurd rfl h)

/-! ### A prefix that joins the next message -/

theorem reallocFails_eq (c : ReceiveState) (f : Fragment) : c.reallocFails f =
    (decide (c.recvBufLen + f.bytes.length > c.recvBufCap) && !f.realloc) := by
  unfold ReceiveState.reallocFails ReceiveState.reserve
  by_cases hn : c.recvBufLen + f.bytes.length > c.recvBufCap
  · rw [if_pos hn, decide_eq_true hn]
    cases f.realloc <;> rfl
  · rw [if_neg hn, decide_eq_false hn]
    rfl

/-- Three fragments of which the first opens a message, the second does not fit
and is refused, and the third fits behind the first. -/
theorem failures_of_overflow {c : ReceiveState} (h : Gathers c []) {f₁ f₂ f₃ : Fragment}
    (hopen : f₁.final = false) (hsome : 0 < f₁.bytes.length)
    (hbig : c.recvBufCap ≤ f₂.bytes.length) (hrefused : f₂.realloc = false)
    (hfit : f₁.bytes.length + f₃.bytes.length ≤ c.recvBufCap) :
    lwsReceiver.observe ReceiveState.reallocFails c [f₁, f₂, f₃] = [false, true, false] := by
  have hempty : c.recvBufLen = 0 := h.len_eq
  have hroom : ¬ c.recvBufLen + f₁.bytes.length > c.recvBufCap := by
    rw [hempty]
    omega
  have hin : c.recvBufLen + f₁.bytes.length ≤ c.recvBuf.length := by
    rw [h.length_recvBuf]
    exact not_lt.mp hroom
  obtain ⟨c₁, hc₁⟩ : ∃ c₁, c₁ = { c with
    recvBuf := splice c.recvBuf c.recvBufLen f₁.bytes
    recvBufLen := c.recvBufLen + f₁.bytes.length } := ⟨_, rfl⟩
  have hlen₁ : c₁.recvBufLen = f₁.bytes.length := by
    rw [hc₁, hempty, Nat.zero_add]
  have hcap₁ : c₁.recvBufCap = c.recvBufCap := by
    rw [hc₁]
  -- the first fragment is stored, the second leaves the client as it is
  have hstep₁ : lwsReceiver.step c f₁ = some (c₁, []) := by
    rw [hc₁]
    simp only [lwsReceiver, lwsReceive, ReceiveState.reserve, if_neg hroom, memcpy_of_le hin,
      hopen, Bool.false_eq_true, if_false]
  have hfail₂ : c₁.reallocFails f₂ = true := by
    have hover : f₁.bytes.length + f₂.bytes.length > c.recvBufCap :=
      Nat.lt_of_le_of_lt hbig (Nat.lt_add_of_pos_left hsome)
    rw [reallocFails_eq, hlen₁, hcap₁, decide_eq_true hover, hrefused]
    rfl
  have hstep₂ : lwsReceiver.step c₁ f₂ = some (c₁, []) := by
    simp only [lwsReceiver, lwsReceive]
    rw [Option.isNone_iff_eq_none.mp hfail₂]
  rw [Transducer.observe_cons hstep₁, Transducer.observe_cons hstep₂,
    Transducer.observe_singleton, hfail₂, reallocFails_eq, reallocFails_eq, decide_eq_false hroom,
    hlen₁, hcap₁, decide_eq_false (not_lt.mpr hfit), Bool.false_and, Bool.false_and]

/-- A message in two fragments of which the second is refused, and a message
behind it. -/
def refusedHistory : List Fragment :=
  [⟨[1], false, true⟩, ⟨List.replicate clientRecvBufSize 0, true, false⟩, ⟨[2], true, true⟩]

theorem gathers_init : Gathers ReceiveState.init [] :=
  Gathers.of_empty List.length_replicate rfl rfl

/-- The first fragment of the lost message is delivered with the next
message. -/
theorem refusedHistory_joined : ¬ DeliversWhole ReceiveState.init refusedHistory := by
  have hflags : lwsReceiver.observe ReceiveState.reallocFails ReceiveState.init refusedHistory =
      [false, true, false] :=
    failures_of_overflow gathers_init rfl Nat.zero_lt_one (Nat.le_of_eq List.length_replicate.symm)
      rfl (by decide)
  rw [deliversWhole_iff gathers_init]
  unfold received
  rw [hflags]
  intro heq
  have hcalls : [[1, 2]] = [[(2 : UInt8)]] := heq
  exact absurd hcalls (by decide)

theorem lwsReceive_whole_iff_refusedHistory :
    DeliversWhole ReceiveState.init refusedHistory ↔
      Clean (received ReceiveState.init refusedHistory) :=
  lwsReceive_whole_iff List.length_replicate rfl rfl refusedHistory

end Desktop

end BoxDoubao
