import BoxDoubao.Desktop.SendQueue

/-!
# Producers, the service thread and the send queue

The client with everything that acts on its send queue, as a machine. A
producer is a number; `requesting` are the producers that have put a message
into the queue and not yet asked for the WRITEABLE callback. libwebsockets is
assumed to issue the callback after a request, so a request is remembered in
`pending` until the next callback; it may also issue one unasked.

A stop of one of the client's functions at an undefined access stops the
machine. The history (`accepted`, `written`, `freed`) is no part of the client.
-/

namespace BoxDoubao

open CMemory

namespace Desktop

/-- The client, the copies of the messages, libwebsockets and the producers. -/
structure SendSystem (μ : Type) where
  client : DoubaoClient
  blocks : Blocks μ
  pending : Bool
  requesting : List ℕ
  /-- An `lws_write` has failed. -/
  failed : Bool
  destroyed : Bool
  accepted : List μ
  written : List μ
  freed : List ℕ

inductive SendAct (μ : Type) where
  /-- The critical section of `client_send_raw`. -/
  | send (producer : ℕ) (msg : μ) (granted : Bool)
  /-- Its `lws_callback_on_writable`, when `wsi` is set. -/
  | request (producer : ℕ)
  /-- `client_connect` has `wsi`. -/
  | connectVia
  | established
  | writeable (wrote : Bool)
  /-- `CLIENT_CONNECTION_ERROR` and `CLIENT_CLOSED`. -/
  | closed
  | destroy

namespace SendSystem

variable {μ : Type}

/-- After `client_init`. -/
def init : SendSystem μ where
  client := clientInit
  blocks := Blocks.empty
  pending := false
  requesting := []
  failed := false
  destroyed := false
  accepted := []
  written := []
  freed := []

variable (s : SendSystem μ)

/-- `client_send_raw` up to the end of its critical section. -/
def send (producer : ℕ) (msg : μ) (granted : Bool) : Except Stop (SendSystem μ) := do
  let (client, blocks, ret) ← clientSendRaw s.client s.blocks msg granted
  if ret = 0 then
    return { s with
      client := client
      blocks := blocks
      requesting := producer :: s.requesting
      accepted := s.accepted ++ [msg] }
  else return { s with client := client, blocks := blocks }

/-- The request, which is made only when `wsi` is set. -/
def request (producer : ℕ) : SendSystem μ :=
  { s with
    requesting := s.requesting.erase producer
    pending := s.pending || s.client.wsi }

/-- The WRITEABLE callback, by which the request for it is used up. -/
def writeable (wrote : Bool) : Except Stop (SendSystem μ) := do
  let r ← clientWriteable s.client s.blocks wrote
  return { s with
    client := r.client
    blocks := r.blocks
    pending := r.request
    failed := s.failed || decide (r.ret < 0)
    written := s.written ++ (r.sent.map Prod.fst).toList
    freed := s.freed ++ (r.sent.map Prod.snd).toList }

/-- `client_destroy`. -/
def destroy : Except Stop (SendSystem μ) := do
  let (q, blocks, freed) ← freeRemaining clientSendQueueSize s.client.sendQueue s.blocks s.freed
  return { s with
    client := { s.client with sendQueue := q, running := false }
    blocks := blocks
    destroyed := true
    freed := freed }

/-- One step; `none` where it is not enabled. A thread is in one call of
`client_send_raw` at a time, callbacks come while there is a connection to
serve, and no producer runs once `client_destroy` has started. -/
def act : SendAct μ → Option (Except Stop (SendSystem μ))
  | .send producer msg granted =>
    if s.destroyed = true ∨ producer ∈ s.requesting then none
    else some (s.send producer msg granted)
  | .request producer =>
    if producer ∈ s.requesting then some (.ok (s.request producer)) else none
  | .connectVia =>
    if s.destroyed = true then none
    else some (.ok { s with client := { s.client with wsi := true } })
  | .established =>
    if s.destroyed = true ∨ s.client.wsi = false then none
    else some (.ok { s with client := { s.client with connected := true }, pending := true })
  | .writeable wrote =>
    if s.destroyed = true ∨ s.client.wsi = false then none else some (s.writeable wrote)
  | .closed =>
    if s.destroyed = true ∨ s.client.wsi = false then none
    else some (.ok { s with client := { s.client with connected := false, running := false } })
  | .destroy => if s.destroyed = true ∨ s.requesting ≠ [] then none else some s.destroy

/-- The machine; no step leaves a stop. -/
def machine (μ : Type) : Machine (Except Stop (SendSystem μ)) (SendAct μ) where
  step r a :=
    match r with
    | .ok s => s.act a
    | .error _ => none

/-! ### The invariant -/

/-- The queue holds what was accepted and not given back; what was written is
what was given back before `client_destroy`, and that gives back the rest. A
message that waits has a request pending, or its producer has still to make
one. -/
structure Inv : Prop where
  holding : Holding s.client.sendQueue s.blocks s.freed.length s.accepted
  freed_eq : s.freed = List.range s.freed.length
  written_prefix : s.written <+: s.accepted
  written_freed : s.destroyed = false → s.freed.length = s.written.length
  all_freed : s.destroyed = true → s.freed.length = s.accepted.length
  wsi : s.client.connected = true → s.client.wsi = true
  wake : s.client.connected = true → s.failed = false →
    s.client.sendQueue.head ≠ s.client.sendQueue.tail → s.pending = true ∨ s.requesting ≠ []

theorem inv_init : (init : SendSystem μ).Inv where
  holding := Holding.init
  freed_eq := rfl
  written_prefix := List.prefix_refl _
  written_freed := fun _ => rfl
  all_freed := nofun
  wsi := nofun
  wake := nofun

section Steps

variable {s} (h : s.Inv)

include h

theorem Inv.send (producer : ℕ) (msg : μ) (granted : Bool) (hlive : s.destroyed = false) :
    ∃ s', s.send producer msg granted = .ok s' ∧ s'.Inv := by
  obtain hrefused | ⟨q', haccepted, hq'⟩ := clientSendRaw_cases h.holding msg granted
  · -- a refused message changes nothing, and its producer asks for nothing
    refine ⟨s, ?_, h⟩
    unfold SendSystem.send
    rw [bind_ok hrefused]
    rfl
  · refine ⟨_, (bind_ok haccepted).trans rfl, ?_⟩
    exact {
      holding := hq'
      freed_eq := h.freed_eq
      written_prefix := h.written_prefix.trans (List.prefix_append _ _)
      written_freed := h.written_freed
      all_freed := fun hdestroyed => absurd hdestroyed (by rw [hlive]; exact Bool.false_ne_true)
      wsi := h.wsi
      -- the producer has still to ask for a callback
      wake := fun _ _ _ => Or.inr (List.cons_ne_nil _ _) }

theorem Inv.request (producer : ℕ) : (s.request producer).Inv where
  holding := h.holding
  freed_eq := h.freed_eq
  written_prefix := h.written_prefix
  written_freed := h.written_freed
  all_freed := h.all_freed
  wsi := h.wsi
  wake := by
    intro hconnected _ _
    left
    show (s.pending || s.client.wsi) = true
    rw [h.wsi hconnected, Bool.or_true]

theorem Inv.writeable (wrote : Bool) (hlive : s.destroyed = false) :
    ∃ s', s.writeable wrote = .ok s' ∧ s'.Inv := by
  have hwritten := h.written_freed hlive
  by_cases hne : s.client.sendQueue.head = s.client.sendQueue.tail
  · -- an empty queue writes nothing and asks for nothing
    have hidle : s.writeable wrote = .ok { s with pending := false } := by
      unfold SendSystem.writeable
      rw [bind_ok (clientWriteable_idle hne wrote)]
      show Except.ok { s with
        pending := false
        failed := s.failed || false
        written := s.written ++ []
        freed := s.freed ++ [] } = _
      rw [Bool.or_false, List.append_nil, List.append_nil]
    refine ⟨_, hidle, ?_⟩
    exact {
      holding := h.holding
      freed_eq := h.freed_eq
      written_prefix := h.written_prefix
      written_freed := h.written_freed
      all_freed := h.all_freed
      wsi := h.wsi
      wake := fun _ _ hqueue => absurd hne hqueue }
  · obtain ⟨q', msg, hmsg, hrun, hq'⟩ := clientWriteable_sends h.holding hne wrote
    refine ⟨_, (bind_ok hrun).trans rfl, ?_⟩
    have hlen : (s.freed ++ [s.freed.length]).length = s.freed.length + 1 := List.length_append
    exact {
      holding := by
        show Holding _ _ (s.freed ++ [s.freed.length]).length _
        rw [hlen]
        exact hq'
      freed_eq := by
        show s.freed ++ [s.freed.length] = List.range (s.freed ++ [s.freed.length]).length
        rw [hlen, List.range_succ, ← h.freed_eq]
      written_prefix := by
        -- the next message accepted is the next one written
        show s.written ++ [msg] <+: s.accepted
        rw [hwritten] at hmsg
        exact prefix_snoc h.written_prefix hmsg
      written_freed := by
        intro _
        show (s.freed ++ [s.freed.length]).length = (s.written ++ [msg]).length
        rw [hlen, List.length_append, hwritten]
        rfl
      all_freed := fun hdestroyed => absurd hdestroyed (by rw [hlive]; exact Bool.false_ne_true)
      wsi := h.wsi
      wake := by
        intro _ hok hqueue
        left
        show (wrote && decide (q'.head ≠ q'.tail)) = true
        cases wrote with
        | true => exact decide_eq_true hqueue
        | false =>
          -- the failure is on record
          have hfailed : (s.failed || decide ((-1 : ℤ) < 0)) = false := hok
          rw [decide_eq_true (by decide), Bool.or_true] at hfailed
          cases hfailed }

theorem Inv.destroy : ∃ s', s.destroy = .ok s' ∧ s'.Inv := by
  have hle := h.holding.le
  have hcount := RingBuffer.count_lt h.holding.bounded
  rw [h.holding.size] at hcount
  obtain ⟨q', hrun, hq'⟩ := freeRemaining_spec h.holding hcount.le s.freed
  refine ⟨_, (bind_ok hrun).trans rfl, ?_⟩
  -- the copies freed before and those freed now are all of them, each once
  have hfreed : s.freed ++ List.range' s.freed.length (s.accepted.length - s.freed.length) =
      List.range s.accepted.length := by
    have hsplit : List.range' 0 s.freed.length ++
        List.range' (0 + s.freed.length) (s.accepted.length - s.freed.length) = _ :=
      List.range'_append_1
    rw [Nat.zero_add, ← List.range_eq_range', ← h.freed_eq, Nat.add_sub_cancel' hle] at hsplit
    rw [hsplit, List.range_eq_range']
  have hlen : (s.freed ++ List.range' s.freed.length
      (s.accepted.length - s.freed.length)).length = s.accepted.length := by
    rw [hfreed, List.length_range]
  exact {
    holding := by
      show Holding _ _ (s.freed ++ List.range' s.freed.length _).length _
      rw [hlen]
      exact hq'
    freed_eq := by
      show s.freed ++ List.range' s.freed.length _ =
        List.range (s.freed ++ List.range' s.freed.length _).length
      rw [hlen, hfreed]
    written_prefix := h.written_prefix
    written_freed := nofun
    all_freed := fun _ => hlen
    wsi := h.wsi
    wake := fun _ _ hqueue => absurd (hq'.head_eq_tail_iff.mpr rfl) hqueue }

/-- **One step** stops at no undefined access and keeps the invariant. -/
theorem Inv.act {a : SendAct μ} {r : Except Stop (SendSystem μ)} (hact : s.act a = some r) :
    ∃ s', r = .ok s' ∧ s'.Inv := by
  cases a with
  | send producer msg granted =>
    obtain ⟨hoff, hr⟩ := Option.ite_none_left_eq_some.mp hact
    obtain ⟨hlive, -⟩ := not_or.mp hoff
    obtain rfl := Option.some.inj hr
    exact h.send producer msg granted (Bool.eq_false_of_not_eq_true hlive)
  | request producer =>
    obtain ⟨-, hr⟩ := Option.ite_none_right_eq_some.mp hact
    obtain rfl := Option.some.inj hr
    exact ⟨_, rfl, h.request producer⟩
  | connectVia =>
    obtain ⟨-, hr⟩ := Option.ite_none_left_eq_some.mp hact
    obtain rfl := Option.some.inj hr
    refine ⟨_, rfl, ?_⟩
    exact { h with wsi := fun _ => rfl }
  | established =>
    obtain ⟨hoff, hr⟩ := Option.ite_none_left_eq_some.mp hact
    obtain rfl := Option.some.inj hr
    refine ⟨_, rfl, ?_⟩
    exact { h with
      wsi := fun _ => Bool.eq_true_of_not_eq_false (not_or.mp hoff).2
      wake := fun _ _ _ => Or.inl rfl }
  | writeable wrote =>
    obtain ⟨hoff, hr⟩ := Option.ite_none_left_eq_some.mp hact
    obtain ⟨hlive, -⟩ := not_or.mp hoff
    obtain rfl := Option.some.inj hr
    exact h.writeable wrote (Bool.eq_false_of_not_eq_true hlive)
  | closed =>
    -- what waits on a closed connection is not promised a callback
    obtain ⟨-, hr⟩ := Option.ite_none_left_eq_some.mp hact
    obtain rfl := Option.some.inj hr
    refine ⟨_, rfl, ?_⟩
    exact { h with
      wsi := nofun
      wake := nofun }
  | destroy =>
    obtain ⟨-, hr⟩ := Option.ite_none_left_eq_some.mp hact
    obtain rfl := Option.some.inj hr
    exact h.destroy

end Steps

/-- Every run from `client_init` ends in a state that meets the invariant. -/
theorem inv_run {acts : List (SendAct μ)} {r : Except Stop (SendSystem μ)}
    (hrun : (machine μ).run (.ok init) acts = some r) : ∃ s, r = .ok s ∧ s.Inv := by
  refine Machine.inv_run (I := fun r : Except Stop (SendSystem μ) => ∃ s, r = .ok s ∧ s.Inv) ?_
    ⟨init, rfl, inv_init⟩ hrun
  rintro r a r' ⟨s, rfl, hs⟩ hstep
  exact hs.act hstep

end SendSystem

end Desktop

end BoxDoubao
