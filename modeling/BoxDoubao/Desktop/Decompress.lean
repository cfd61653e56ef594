import BoxDoubao.Lib.CMemory

/-!
# `gzip_decompress` of the desktop client

The desktop client inflates into a buffer that it doubles whenever `inflate`
has filled it. zlib is not part of the repository: `Zlib` is one call of
`inflate` with `Z_NO_FLUSH` as a function of its state, the input ahead and the
room behind `next_out`, and `Inflates` is its contract for one input.

`Head` is what holds at the head of the loop. `turn_cases` says what one turn
does: it ends the function, or it leads to the head again with more input
consumed or more output written, which is what makes the loop end.
-/

namespace BoxDoubao

open CMemory

namespace Desktop

/-! ### zlib -/

/-- The return codes of `inflate`. -/
inductive ZRet where
  | ok
  | streamEnd
  | needDict
  | bufError
  | dataError
  | memError
  | streamError
  deriving DecidableEq

/-- What a call of `inflate` does. -/
structure Inflated (σ : Type) where
  ret : ZRet
  state : σ
  /-- How far `next_in` advances. -/
  consumed : ℕ
  /-- What it writes at `next_out`. -/
  written : Bytes

structure Zlib where
  State : Type
  /-- The state `inflateInit2` leaves. -/
  start : State
  /-- `inflate` on the input ahead, with room for so many bytes, when it gets
  the memory it asks for. -/
  inflate : State → Bytes → ℕ → Inflated State

/-- The calls of `inflate` on `data` so far have returned `Z_OK`, have consumed
`used` bytes of it and have written `out`. -/
inductive Zlib.Reached (z : Zlib) (data : Bytes) : z.State → ℕ → Bytes → Prop
  | start : Reached z data z.start 0 []
  | ok {st : z.State} {used room : ℕ} {out : Bytes} :
      Reached z data st used out → (z.inflate st (data.drop used) room).ret = .ok →
      Reached z data (z.inflate st (data.drop used) room).state
        (used + (z.inflate st (data.drop used) room).consumed)
        (out ++ (z.inflate st (data.drop used) room).written)

/-- The contract of `inflate` on an input that decodes to `content`, as far as
it goes, and is a complete stream with the right checks or not. -/
structure Zlib.Inflates (z : Zlib) (data content : Bytes) (complete : Prop) : Prop where
  consumed_le : ∀ {st used out}, z.Reached data st used out → ∀ room,
    (z.inflate st (data.drop used) room).consumed ≤ (data.drop used).length
  written_le : ∀ {st used out}, z.Reached data st used out → ∀ room,
    (z.inflate st (data.drop used) room).written.length ≤ room
  /-- What is written is what the stream decodes to. -/
  decodes : ∀ {st used out}, z.Reached data st used out → ∀ room,
    out ++ (z.inflate st (data.drop used) room).written <+: content
  /-- A call that makes no progress does not return `Z_OK`. -/
  progress : ∀ {st used out}, z.Reached data st used out → ∀ room,
    (z.inflate st (data.drop used) room).ret = .ok →
    0 < (z.inflate st (data.drop used) room).consumed ∨
      0 < (z.inflate st (data.drop used) room).written.length
  /-- `Z_STREAM_END` is for a stream that has been decoded and checked. -/
  ended : ∀ {st used out}, z.Reached data st used out → ∀ room,
    (z.inflate st (data.drop used) room).ret = .streamEnd →
    complete ∧ out ++ (z.inflate st (data.drop used) room).written = content
  /-- There is no error in a complete stream, and with room there is progress. -/
  valid : ∀ {st used out}, z.Reached data st used out → ∀ room, complete → 0 < room →
    (z.inflate st (data.drop used) room).ret = .ok ∨
      (z.inflate st (data.drop used) room).ret = .streamEnd

/-! ### The function -/

/-- The conversion to `uInt`. -/
def uInt (n : ℕ) : ℕ := n % 4294967296

/-- `z_stream`. The pointers are offsets into the input and into `out`. -/
structure ZStream (z : Zlib) where
  state : z.State
  nextIn : ℕ
  availIn : ℕ
  nextOut : ℕ
  availOut : ℕ
  totalOut : ℕ

/-- The variables at the head of the loop, the allocator, and the number of
calls of zlib. -/
structure LoopHead (z : Zlib) where
  out : Bytes
  bufSize : ℕ
  strm : ZStream z
  heap : Heap
  calls : ℕ

/-- The result: `NULL`, which leaves `*out_len` alone, or the buffer and
`*out_len`. -/
structure Inflation where
  out : Option (Bytes × ℕ)
  heap : Heap
  calls : ℕ

/-- Where the function is. -/
inductive Progress (z : Zlib) where
  | head (l : LoopHead z)
  | returned (r : Inflation)

section

variable (z : Zlib) (memory : ℕ → Bool) (data : Bytes)

/-- What the next call of `inflate` does. `memory` says which calls of zlib get
the memory they ask for. -/
def answer (l : LoopHead z) : Inflated z.State :=
  if memory l.calls then
    z.inflate l.strm.state ((data.drop l.strm.nextIn).take l.strm.availIn) l.strm.availOut
  else ⟨.memError, l.strm.state, 0, []⟩

/-- The variables behind the call. -/
def LoopHead.advance {z : Zlib} (l : LoopHead z) (r : Inflated z.State) (out : Bytes) :
    LoopHead z :=
  { l with
    out := out
    strm := {
      state := r.state
      nextIn := l.strm.nextIn + r.consumed
      availIn := l.strm.availIn - r.consumed
      nextOut := l.strm.nextOut + r.written.length
      availOut := l.strm.availOut - r.written.length
      totalOut := l.strm.totalOut + r.written.length }
    calls := l.calls + 1 }

/-- One call of `inflate`. -/
def callInflate (l : LoopHead z) : Except Stop (ZRet × LoopHead z) := do
  let r := answer z memory data l
  -- zlib writes where `next_out` points
  let out ← memcpy l.out l.strm.nextOut r.written
  return (r.ret, l.advance r out)

/-- The body of the loop behind a call that returned `Z_OK`. -/
def growOut (l : LoopHead z) : Progress z :=
  if l.strm.availOut = 0 then
    -- the old half keeps its bytes, and `next_out` points behind it
    let newSize := l.bufSize * 2
    match l.heap.realloc with
    | (true, heap) =>
      .head { l with
        out := reallocBytes l.out newSize
        bufSize := newSize
        strm := { l.strm with
          nextOut := l.bufSize
          availOut := uInt (newSize - l.bufSize) }
        heap := heap }
    | (false, heap) => .returned ⟨none, heap.free, l.calls⟩
  else .head l

/-- One turn of the loop. -/
def turn (l : LoopHead z) : Except Stop (Progress z) := do
  let (ret, l) ← callInflate z memory data l
  match ret with
  | .streamEnd => return .returned ⟨some (l.out, l.strm.totalOut), l.heap, l.calls⟩
  | .ok => return growOut z l
  | _ => return .returned ⟨none, l.heap.free, l.calls⟩

/-- The size of the first buffer. -/
def firstSize (dataLen : ℕ) : ℕ := if dataLen * 8 < 4096 then 4096 else dataLen * 8

/-- The function up to the loop. -/
def beforeLoop (fresh : ℕ → UInt8) (heap : Heap) : Progress z :=
  let bufSize := firstSize data.length
  match heap.malloc with
  | (false, heap) => .returned ⟨none, heap, 0⟩
  | (true, heap) =>
    -- `inflateInit2`
    if memory 0 then
      .head {
        out := newBuffer fresh bufSize
        bufSize := bufSize
        strm := {
          state := z.start
          nextIn := 0
          availIn := uInt data.length
          nextOut := 0
          availOut := uInt bufSize
          totalOut := 0 }
        heap := heap
        calls := 1 }
    else .returned ⟨none, heap.free, 1⟩

/-- `gzip_decompress` after so many turns of its loop. -/
def gzipDecompress (fresh : ℕ → UInt8) (heap : Heap) : (turns : ℕ) → Except Stop (Progress z)
  | 0 => .ok (beforeLoop z memory data fresh heap)
  | turns + 1 => do
    match ← gzipDecompress fresh heap turns with
    | .head l => turn z memory data l
    | .returned r => return .returned r

end

/-! ### One turn -/

/-- Every request since `first` was granted, and every call of zlib got its
memory. -/
structure Granted (first : Heap) (memory : ℕ → Bool) (heap : Heap) (calls : ℕ) : Prop where
  heap : ∀ k, first.requests ≤ k → k < heap.requests → first.grants k = true
  memory : ∀ k, k < calls → memory k = true

/-- The buffer and the pointers when `written` has been written. -/
structure Buffered {z : Zlib} (memory : ℕ → Bool) (data content : Bytes) (first : Heap)
    (l : LoopHead z) (written : Bytes) : Prop where
  decoded : written <+: content
  bufSize : 0 < l.bufSize
  length_out : l.out.length = l.bufSize
  take_out : l.out.take l.strm.nextOut = written
  nextOut : l.strm.nextOut = written.length
  totalOut : l.strm.totalOut = written.length
  room : l.strm.nextOut + l.strm.availOut = l.bufSize
  ahead : l.strm.nextIn + l.strm.availIn = data.length
  granted : Granted first memory l.heap l.calls
  grants : l.heap.grants = first.grants
  requests : first.requests ≤ l.heap.requests
  live : l.heap.live = first.live + 1

/-- What holds at the head of the loop. -/
structure Head {z : Zlib} (memory : ℕ → Bool) (data content : Bytes) (first : Heap)
    (l : LoopHead z) (written : Bytes) : Prop
    extends Buffered memory data content first l written where
  reached : z.Reached data l.strm.state l.strm.nextIn written
  availOut : 0 < l.strm.availOut

/-- The result is right: the content of a complete stream when every request
was granted, and `NULL` otherwise. The buffer is the only one not freed. -/
structure Inflation.Correct (r : Inflation) (first : Heap) (memory : ℕ → Bool) (content : Bytes)
    (complete : Prop) : Prop where
  content : complete → Granted first memory r.heap r.calls →
    ∃ out, r.out = some (out, content.length) ∧ out.take content.length = content
  null : ¬ (complete ∧ Granted first memory r.heap r.calls) → r.out = none
  live : r.heap.live = first.live + r.out.toList.length

section

variable {z : Zlib} {memory : ℕ → Bool} {data content : Bytes} {complete : Prop} {first : Heap}
  {l : LoopHead z} {written : Bytes}

theorem uInt_of_lt {n : ℕ} (h : n < 4294967296) : uInt n = n := Nat.mod_eq_of_lt h

/-- A call that stays inside the buffer. -/
theorem callInflate_of_le
    (hfit : l.strm.nextOut + (answer z memory data l).written.length ≤ l.out.length) :
    callInflate z memory data l = .ok ((answer z memory data l).ret,
      l.advance (answer z memory data l)
        (splice l.out l.strm.nextOut (answer z memory data l).written)) :=
  bind_ok (memcpy_of_le hfit)

theorem answer_of_memory (h : Head memory data content first l written)
    (hmemory : memory l.calls = true) :
    answer z memory data l =
      z.inflate l.strm.state (data.drop l.strm.nextIn) l.strm.availOut := by
  have hall : (data.drop l.strm.nextIn).length ≤ l.strm.availIn := by
    have hahead := h.ahead
    rw [List.length_drop]
    omega
  rw [answer, if_pos hmemory, List.take_of_length_le hall]

/-- What is left to do when so much was consumed and written. -/
def left (data content : Bytes) (l : LoopHead z) : ℕ :=
  (data.length - l.strm.nextIn) + (content.length - l.strm.totalOut)

/-- Where a turn leads: to the head again with less left to do, or to a result
that is right. -/
inductive Turns (z : Zlib) (memory : ℕ → Bool) (data content : Bytes) (complete : Prop)
    (first : Heap) (n : ℕ) : Progress z → Prop
  | head {l : LoopHead z} {written : Bytes} : Head memory data content first l written →
      left data content l < n → Turns z memory data content complete first n (.head l)
  | returned {r : Inflation} : r.Correct first memory content complete →
      Turns z memory data content complete first n (.returned r)

/-- A failure that is right: the stream is not complete, or a request was
refused. -/
theorem Inflation.Correct.failure {heap : Heap} {calls : ℕ}
    (hfails : ¬ (complete ∧ Granted first memory heap calls)) (hlive : heap.live = first.live) :
    Inflation.Correct ⟨none, heap, calls⟩ first memory content complete where
  content hcomplete hgranted := absurd ⟨hcomplete, hgranted⟩ hfails
  null _ := rfl
  live := hlive

/-- **The call keeps the pointers right.** -/
theorem Head.advance (hz : z.Inflates data content complete)
    (h : Head memory data content first l written) (hmemory : memory l.calls = true) :
    ∃ l', callInflate z memory data l = .ok ((answer z memory data l).ret, l') ∧
      Buffered memory data content first l' (written ++ (answer z memory data l).written) ∧
      l'.strm.state = (answer z memory data l).state ∧
      l'.strm.nextIn = l.strm.nextIn + (answer z memory data l).consumed := by
  have hanswer := answer_of_memory h hmemory
  have hconsumed := hz.consumed_le h.reached l.strm.availOut
  have hwritten := hz.written_le h.reached l.strm.availOut
  have hdecodes := hz.decodes h.reached l.strm.availOut
  rw [← hanswer] at hconsumed hwritten hdecodes
  have hroom := h.room
  have hahead := h.ahead
  have hfit : l.strm.nextOut + (answer z memory data l).written.length ≤ l.out.length := by
    rw [h.length_out]
    omega
  rw [List.length_drop] at hconsumed
  refine ⟨_, callInflate_of_le hfit, ?_, rfl, rfl⟩
  constructor
  · exact hdecodes
  · exact h.bufSize
  · exact (length_splice hfit).trans h.length_out
  · change List.take (l.strm.nextOut + _) (splice _ _ _) = _
    rw [take_splice hfit, h.take_out]
  · rw [List.length_append, ← h.nextOut]
    rfl
  · rw [List.length_append, ← h.totalOut]
    rfl
  · change l.strm.nextOut + _ + (l.strm.availOut - _) = l.bufSize
    omega
  · change l.strm.nextIn + _ + (l.strm.availIn - _) = data.length
    omega
  · refine ⟨h.granted.heap, ?_⟩
    intro k hk
    obtain hlt | rfl := Nat.lt_succ_iff_lt_or_eq.mp hk
    · exact h.granted.memory k hlt
    · exact hmemory
  · exact h.grants
  · exact h.requests
  · exact h.live

/-- `inflate` returned `Z_OK`: the buffer is doubled when it is full. -/
theorem Buffered.growOut {n : ℕ} (h : Buffered memory data content first l written)
    (hcontent : content.length < 4294967296)
    (hreached : z.Reached data l.strm.state l.strm.nextIn written)
    (hleft : left data content l < n) :
    Turns z memory data content complete first n (growOut z l) := by
  have hroom := h.room
  have hnext := h.nextOut
  unfold Desktop.growOut
  by_cases hfull : l.strm.availOut = 0
  · -- no room is left, so the whole buffer is output
    rw [if_pos hfull]
    have hsize : l.bufSize = written.length := by omega
    have hshort : l.bufSize < 4294967296 := by
      rw [hsize]
      exact Nat.lt_of_le_of_lt h.decoded.length_le hcontent
    have hgrown : uInt (l.bufSize * 2 - l.bufSize) = l.bufSize := by
      rw [show l.bufSize * 2 - l.bufSize = l.bufSize by omega]
      exact uInt_of_lt hshort
    have hout : l.out.take l.bufSize = written := by
      rw [← h.take_out, hnext, hsize]
    have hrequests := h.requests
    cases hg : l.heap.grants l.heap.requests with
    | true =>
      simp only [Heap.realloc, hg]
      -- the new half is as long as the old one, which is what `avail_out` is set to
      suffices hhead : Head memory data content first _ written from .head hhead hleft
      refine ⟨⟨h.decoded, ?_, ?_, ?_, hsize, h.totalOut, ?_, h.ahead, ?_, h.grants, ?_, h.live⟩,
        hreached, ?_⟩
      · exact Nat.mul_pos h.bufSize Nat.zero_lt_two
      · exact length_reallocBytes _ _
      · change (reallocBytes l.out (l.bufSize * 2)).take l.bufSize = written
        rw [take_reallocBytes (by omega) (Nat.le_of_eq h.length_out.symm), hout]
      · change l.bufSize + uInt (l.bufSize * 2 - l.bufSize) = l.bufSize * 2
        rw [hgrown]
        omega
      · refine ⟨?_, h.granted.memory⟩
        intro k hfirst hk
        obtain hlt | rfl := Nat.lt_succ_iff_lt_or_eq.mp hk
        · exact h.granted.heap k hfirst hlt
        · exact h.grants ▸ hg
      · exact Nat.le_succ_of_le hrequests
      · change 0 < uInt (l.bufSize * 2 - l.bufSize)
        rw [hgrown]
        exact h.bufSize
    | false =>
      simp only [Heap.realloc, hg]
      refine .returned (.failure ?_ ?_)
      · -- the request just refused is the last one
        rintro ⟨-, hgranted⟩
        have hlast := hgranted.heap l.heap.requests hrequests (Nat.lt_succ_self _)
        rw [← h.grants, hg] at hlast
        cases hlast
      · change l.heap.live - 1 = first.live
        rw [h.live, Nat.add_sub_cancel]
  · rw [if_neg hfull]
    exact .head ⟨h, hreached, Nat.pos_of_ne_zero hfull⟩ hleft

/-- `inflate` returned an error. -/
theorem turn_of_error {ret : ZRet} {l' : LoopHead z}
    (hcall : callInflate z memory data l = .ok (ret, l')) (hok : ret ≠ .ok)
    (hend : ret ≠ .streamEnd) :
    turn z memory data l = .ok (.returned ⟨none, l'.heap.free, l'.calls⟩) := by
  refine (bind_ok hcall).trans ?_
  cases ret with
  | ok => exact absurd rfl hok
  | streamEnd => exact absurd rfl hend
  | needDict => rfl
  | bufError => rfl
  | dataError => rfl
  | memError => rfl
  | streamError => rfl

/-- A call of zlib without memory ends the function. -/
theorem Head.turn_refused (h : Head memory data content first l written)
    (hmemory : memory l.calls = false) :
    ∃ r, turn z memory data l = .ok (.returned r) ∧
      r.Correct first memory content complete := by
  have hanswer : answer z memory data l = ⟨.memError, l.strm.state, 0, []⟩ := by
    rw [answer, hmemory]
    rfl
  have hfit : l.strm.nextOut + (answer z memory data l).written.length ≤ l.out.length := by
    have hroom := h.room
    rw [hanswer, h.length_out, List.length_nil]
    omega
  have hcall := callInflate_of_le hfit
  refine ⟨_, turn_of_error hcall ?_ ?_, .failure ?_ ?_⟩
  · rw [hanswer]
    rintro ⟨⟩
  · rw [hanswer]
    rintro ⟨⟩
  · rintro ⟨-, hgranted⟩
    have hlast := hgranted.memory l.calls (Nat.lt_succ_self _)
    rw [hmemory] at hlast
    cases hlast
  · change l.heap.live - 1 = first.live
    rw [h.live, Nat.add_sub_cancel]

/-- **One turn.** -/
theorem Head.turn (hz : z.Inflates data content complete) (hcontent : content.length < 4294967296)
    (h : Head memory data content first l written) :
    ∃ p, turn z memory data l = .ok p ∧
      Turns z memory data content complete first (left data content l) p := by
  cases hmemory : memory l.calls with
  | false =>
    obtain ⟨r, hr, hcorrect⟩ := h.turn_refused hmemory
    exact ⟨_, hr, .returned hcorrect⟩
  | true =>
    obtain ⟨l', hcall, hbuffered, hstate, hnextIn⟩ := h.advance hz hmemory
    have hanswer := answer_of_memory h hmemory
    by_cases hok : (answer z memory data l).ret = .ok
    · -- more was consumed or more was written
      rw [hok] at hcall
      refine ⟨_, bind_ok hcall, hbuffered.growOut hcontent ?_ ?_⟩
      · rw [hstate, hnextIn, hanswer]
        exact h.reached.ok (hanswer ▸ hok)
      · have hprogress := hz.progress h.reached l.strm.availOut (hanswer ▸ hok)
        rw [← hanswer] at hprogress
        have hdecoded := hbuffered.decoded.length_le
        have hahead := hbuffered.ahead
        have htotal := hbuffered.totalOut
        have htotal' := h.totalOut
        rw [List.length_append] at hdecoded htotal
        unfold left
        omega
    · by_cases hend : (answer z memory data l).ret = .streamEnd
      · -- what was written up to here is the content
        have hended := hz.ended h.reached l.strm.availOut (hanswer ▸ hend)
        rw [← hanswer] at hended
        rw [hend] at hcall
        refine ⟨_, bind_ok hcall, .returned ⟨?_, ?_, ?_⟩⟩
        · intro _ _
          have htotal := hbuffered.totalOut
          rw [hended.2] at htotal
          have htake := hbuffered.take_out
          rw [hbuffered.nextOut, hended.2] at htake
          refine ⟨l'.out, ?_, htake⟩
          rw [htotal]
        · exact fun hnot => absurd ⟨hended.1, hbuffered.granted⟩ hnot
        · exact hbuffered.live
      · -- zlib got its memory and had room, so the stream is to blame
        refine ⟨_, turn_of_error hcall hok hend, .returned (.failure ?_ ?_)⟩
        · rintro ⟨hcomplete, -⟩
          have hvalid := hz.valid h.reached l.strm.availOut hcomplete h.availOut
          rw [← hanswer] at hvalid
          exact hvalid.elim hok hend
        · change l'.heap.live - 1 = first.live
          rw [hbuffered.live, Nat.add_sub_cancel]

/-! ### The whole function -/

theorem firstSize_pos (n : ℕ) : 0 < firstSize n := by
  unfold firstSize
  split <;> omega

/-- Before the loop. -/
theorem beforeLoop_turns (fresh : ℕ → UInt8) (heap : Heap)
    (hsize : data.length * 8 < 4294967296) :
    Turns z memory data content complete heap (data.length + content.length + 1)
      (beforeLoop z memory data fresh heap) := by
  have hfirst : firstSize data.length < 4294967296 := by
    unfold firstSize
    split <;> omega
  unfold beforeLoop Heap.malloc
  cases hg : heap.grants heap.requests with
  | false =>
    refine .returned (.failure ?_ rfl)
    rintro ⟨-, hgranted⟩
    have hlast := hgranted.heap heap.requests (Nat.le_refl _) (Nat.lt_succ_self _)
    rw [hg] at hlast
    cases hlast
  | true =>
    cases hmemory : memory 0 with
    | false =>
      refine .returned (.failure ?_ (Nat.add_sub_cancel _ _))
      rintro ⟨-, hgranted⟩
      have hlast := hgranted.memory 0 (Nat.lt_succ_self _)
      rw [hmemory] at hlast
      cases hlast
    | true =>
      suffices hhead : Head memory data content heap _ [] from .head hhead (by
        change (data.length - 0) + (content.length - 0) < _
        omega)
      refine ⟨⟨List.nil_prefix, firstSize_pos _, length_newBuffer _ _, rfl, rfl, rfl, ?_, ?_, ?_,
        rfl, Nat.le_succ _, rfl⟩, .start, ?_⟩
      · change 0 + uInt (firstSize data.length) = firstSize data.length
        rw [uInt_of_lt hfirst, Nat.zero_add]
      · change 0 + uInt data.length = data.length
        rw [uInt_of_lt (by omega), Nat.zero_add]
      · refine ⟨?_, ?_⟩
        · intro k hk hlt
          obtain rfl : k = heap.requests := Nat.le_antisymm (Nat.le_of_lt_succ hlt) hk
          exact hg
        · intro k hk
          obtain rfl : k = 0 := Nat.lt_one_iff.mp hk
          exact hmemory
      · change 0 < uInt (firstSize data.length)
        rw [uInt_of_lt hfirst]
        exact firstSize_pos _

/-- After any number of turns the function is at the head of its loop with that
much less left to do, or has returned. -/
theorem gzipDecompress_turns (hz : z.Inflates data content complete)
    (hsize : data.length * 8 < 4294967296) (hcontent : content.length < 4294967296)
    (fresh : ℕ → UInt8) (heap : Heap) (turns : ℕ) :
    ∃ p n, gzipDecompress z memory data fresh heap turns = .ok p ∧
      Turns z memory data content complete heap n p ∧
      (n + turns ≤ data.length + content.length + 1 ∨ ∃ r, p = .returned r) := by
  induction turns with
  | zero => exact ⟨_, _, rfl, beforeLoop_turns fresh heap hsize, Or.inl (Nat.le_refl _)⟩
  | succ turns ih =>
    obtain ⟨p, n, hp, hturns, hleft⟩ := ih
    cases hturns with
    | returned hcorrect => exact ⟨_, n, bind_ok hp, .returned hcorrect, Or.inr ⟨_, rfl⟩⟩
    | @head l written hhead hless =>
      -- the bound drops with each turn, so it cannot outlast them
      obtain ⟨p', hp', hturns'⟩ := hhead.turn hz hcontent
      refine ⟨p', _, (bind_ok hp).trans hp', hturns', Or.inl ?_⟩
      obtain hn | ⟨r, hr⟩ := hleft
      · omega
      · cases hr

/-- At the head of the loop: what was written is in the buffer and is the
beginning of what the stream decodes to, and the pointers fit the buffer. -/
structure LoopHead.Sound (l : LoopHead z) (content : Bytes) : Prop where
  decoded : l.out.take l.strm.nextOut <+: content
  totalOut : l.strm.totalOut = l.strm.nextOut
  room : l.strm.nextOut + l.strm.availOut = l.bufSize
  length_out : l.out.length = l.bufSize

theorem Head.sound (h : Head memory data content first l written) : l.Sound content where
  decoded := h.take_out ▸ h.decoded
  totalOut := h.totalOut.trans h.nextOut.symm
  room := h.room
  length_out := h.length_out

/-- **The growing loop inflates like one call.** No turn writes outside the
buffer, every turn begins with the pointers right, and after at most one turn
more than the input and the content have bytes the function has returned: the
content, if the stream is complete and every request was granted, and `NULL`
otherwise. -/
theorem gzipDecompress_inflates (hz : z.Inflates data content complete)
    (hsize : data.length * 8 < 4294967296) (hcontent : content.length < 4294967296)
    (memory : ℕ → Bool) (fresh : ℕ → UInt8) (heap : Heap) :
    (∀ turns, ∃ p, gzipDecompress z memory data fresh heap turns = .ok p ∧
      ∀ l, p = .head l → l.Sound content) ∧
    ∃ r, gzipDecompress z memory data fresh heap (data.length + content.length + 1) =
        .ok (.returned r) ∧
      r.Correct heap memory content complete := by
  constructor
  · intro turns
    obtain ⟨p, n, hp, hturns, -⟩ := gzipDecompress_turns hz hsize hcontent fresh heap turns
    refine ⟨p, hp, ?_⟩
    rintro l rfl
    cases hturns with
    | head hhead _ => exact hhead.sound
  · obtain ⟨p, n, hp, hturns, hleft⟩ :=
      gzipDecompress_turns hz hsize hcontent fresh heap (data.length + content.length + 1)
    cases hturns with
    | returned hcorrect => exact ⟨_, hp, hcorrect⟩
    | head _ hless =>
      obtain hn | ⟨r, hr⟩ := hleft
      · omega
      · cases hr

end

/-! ### A short stream -/

/-- The text `hi`. -/
def greeting : Bytes := [104, 105]

/-- The text in one gzip stream. -/
def greetingStream : Bytes :=
  [31, 139, 8, 0, 0, 0, 0, 0, 2, 3, 203, 200, 4, 0, 172, 42, 147, 216, 2, 0, 0, 0]

/-- `inflate` on this stream: the state is how much of the text was written, and
the call that has room for the rest is the last. -/
def inflateGreeting (n : ℕ) (input : Bytes) (room : ℕ) : Inflated ℕ :=
  if room = 0 then ⟨.bufError, n, 0, []⟩
  else if (greeting.drop n).length ≤ room then ⟨.streamEnd, n, input.length, greeting.drop n⟩
  else ⟨.ok, n + room, 0, (greeting.drop n).take room⟩

abbrev greetingZlib : Zlib := ⟨ℕ, 0, inflateGreeting⟩

theorem inflateGreeting_cases (n : ℕ) (input : Bytes) (room : ℕ) :
    (room = 0 ∧ inflateGreeting n input room = ⟨.bufError, n, 0, []⟩) ∨
    ((greeting.drop n).length ≤ room ∧
      inflateGreeting n input room = ⟨.streamEnd, n, input.length, greeting.drop n⟩) ∨
    (0 < room ∧ room < (greeting.drop n).length ∧
      inflateGreeting n input room = ⟨.ok, n + room, 0, (greeting.drop n).take room⟩) := by
  by_cases hroom : room = 0
  · exact Or.inl ⟨hroom, if_pos hroom⟩
  · unfold inflateGreeting
    rw [if_neg hroom]
    by_cases hshort : (greeting.drop n).length ≤ room
    · exact Or.inr (Or.inl ⟨hshort, if_pos hshort⟩)
    · exact Or.inr (Or.inr ⟨Nat.pos_of_ne_zero hroom, Nat.lt_of_not_le hshort, if_neg hshort⟩)

/-- What it writes comes next in the text, and fits. -/
theorem inflateGreeting_written (n : ℕ) (input : Bytes) (room : ℕ) :
    (inflateGreeting n input room).written <+: greeting.drop n ∧
      (inflateGreeting n input room).written.length ≤ room ∧
      (inflateGreeting n input room).consumed ≤ input.length := by
  obtain ⟨-, heq⟩ | ⟨hshort, heq⟩ | ⟨-, -, heq⟩ := inflateGreeting_cases n input room
  · rw [heq]
    exact ⟨List.nil_prefix, Nat.zero_le _, Nat.zero_le _⟩
  · rw [heq]
    exact ⟨List.prefix_rfl, hshort, Nat.le_refl _⟩
  · rw [heq]
    exact ⟨List.take_prefix _ _, List.length_take_le _ _, Nat.zero_le _⟩

theorem greetingZlib_reached {st : greetingZlib.State} {used : ℕ} {out : Bytes}
    (h : greetingZlib.Reached greetingStream st used out) : used = 0 ∧ out = greeting.take st := by
  induction h with
  | start => exact ⟨rfl, rfl⟩
  | @ok st used room out _ hok ih =>
    obtain ⟨rfl, rfl⟩ := ih
    change (inflateGreeting st (greetingStream.drop 0) room).ret = .ok at hok
    change 0 + (inflateGreeting st (greetingStream.drop 0) room).consumed = 0 ∧
      greeting.take st ++ (inflateGreeting st (greetingStream.drop 0) room).written =
        greeting.take (inflateGreeting st (greetingStream.drop 0) room).state
    obtain ⟨-, heq⟩ | ⟨-, heq⟩ | ⟨-, -, heq⟩ :=
      inflateGreeting_cases st (greetingStream.drop 0) room
    · rw [heq] at hok
      cases hok
    · rw [heq] at hok
      cases hok
    · rw [heq]
      exact ⟨rfl, List.take_add.symm⟩

/-- It keeps to the contract. -/
theorem greetingZlib_inflates : greetingZlib.Inflates greetingStream greeting True where
  consumed_le {st used _} _ room :=
    (inflateGreeting_written st (greetingStream.drop used) room).2.2
  written_le {st used _} _ room :=
    (inflateGreeting_written st (greetingStream.drop used) room).2.1
  decodes {st used _} h room := by
    obtain ⟨-, rfl⟩ := greetingZlib_reached h
    obtain ⟨rest, hrest⟩ := (inflateGreeting_written st (greetingStream.drop used) room).1
    refine ⟨rest, ?_⟩
    change greeting.take st ++ (inflateGreeting st (greetingStream.drop used) room).written ++
      rest = greeting
    rw [List.append_assoc, hrest, List.take_append_drop]
  progress {st used _} _ room := by
    change (inflateGreeting st (greetingStream.drop used) room).ret = .ok →
      0 < (inflateGreeting st (greetingStream.drop used) room).consumed ∨
        0 < (inflateGreeting st (greetingStream.drop used) room).written.length
    obtain ⟨-, heq⟩ | ⟨-, heq⟩ | ⟨hroom, hlong, heq⟩ :=
      inflateGreeting_cases st (greetingStream.drop used) room
    · rw [heq]
      rintro ⟨⟩
    · rw [heq]
      rintro ⟨⟩
    · rw [heq, List.length_take]
      exact fun _ => Or.inr (Nat.lt_min.mpr ⟨hroom, Nat.lt_trans hroom hlong⟩)
  ended {st used _} h room := by
    obtain ⟨-, rfl⟩ := greetingZlib_reached h
    change (inflateGreeting st (greetingStream.drop used) room).ret = .streamEnd →
      True ∧ greeting.take st ++ (inflateGreeting st (greetingStream.drop used) room).written = _
    obtain ⟨-, heq⟩ | ⟨-, heq⟩ | ⟨-, -, heq⟩ :=
      inflateGreeting_cases st (greetingStream.drop used) room
    · rw [heq]
      rintro ⟨⟩
    · rw [heq, List.take_append_drop]
      exact fun _ => ⟨trivial, rfl⟩
    · rw [heq]
      rintro ⟨⟩
  valid {st used _} _ room _ hroom := by
    change (inflateGreeting st (greetingStream.drop used) room).ret = .ok ∨
      (inflateGreeting st (greetingStream.drop used) room).ret = .streamEnd
    obtain ⟨hzero, -⟩ | ⟨-, heq⟩ | ⟨-, -, heq⟩ :=
      inflateGreeting_cases st (greetingStream.drop used) room
    · exact absurd hzero (Nat.ne_of_gt hroom)
    · rw [heq]
      exact Or.inr rfl
    · rw [heq]
      exact Or.inl rfl

theorem gzipDecompress_inflates_greeting :
    (∀ turns, ∃ p,
      gzipDecompress greetingZlib (fun _ => true) greetingStream (fun _ => 0) Heap.unlimited turns =
        .ok p ∧ ∀ l, p = .head l → l.Sound greeting) ∧
    ∃ r, gzipDecompress greetingZlib (fun _ => true) greetingStream (fun _ => 0) Heap.unlimited
        (greetingStream.length + greeting.length + 1) = .ok (.returned r) ∧
      r.Correct Heap.unlimited (fun _ => true) greeting True :=
  gzipDecompress_inflates greetingZlib_inflates (by decide) (by decide) (fun _ => true)
    (fun _ => 0) Heap.unlimited

end Desktop

end BoxDoubao
