import BoxDoubao.App.Steps
import BoxDoubao.Lib.Resource

/-!
# The resources of the WebSocket client

`recv_buf`, `event_group` and `ws_handle` of `doubao_ws_client_t` as pointers:
each is NULL or names a resource, and a ledger records what is acquired, used
and released. `WsResources` follows the calls of the main task, and
`clientResources` runs it beside the firmware, which only knows which pointers
are set; `Inv.fields` says that the two agree.

`doubao_ws_init` frees `recv_buf` when there is no event group, and leaves the
pointer. The main task cleans up by looking at the pointers, so the next
attempt frees the buffer again (`bufferFreedTwice`). Everywhere else a pointer
is cleared where its resource is released: `Inv` is preserved by every step but
that one, and `releasedOnce_iff` says that the discipline holds in exactly the
runs without it.
-/

namespace BoxDoubao

open CMemory

/-- The pointers of `doubao_ws_client_t` and what was done to what they name.
Resources are numbered in the order in which they are acquired. -/
structure WsResources where
  recvBuf : Option ℕ
  eventGroup : Option ℕ
  wsHandle : Option ℕ
  acquired : ℕ
  ledger : Ledger ℕ
  deriving DecidableEq

namespace WsResources

/-- The state when the tasks are created. -/
def boot : WsResources := ⟨none, none, none, 0, []⟩

/-! ### The allocator and the libraries -/

/-- A resource is acquired; its name is the number of those before it. -/
def acquire (t : WsResources) : WsResources :=
  { t with acquired := t.acquired + 1, ledger := .acquire t.acquired :: t.ledger }

/-- A resource is used, unless the pointer is NULL. -/
def use (t : WsResources) (p : Option ℕ) : WsResources :=
  { t with ledger := p.toList.map .use ++ t.ledger }

/-- A resource is released, unless the pointer is NULL. -/
def release (t : WsResources) (p : Option ℕ) : WsResources :=
  { t with ledger := p.toList.map .release ++ t.ledger }

/-! ### The calls -/

/-- `doubao_ws_init`: `memset`, then the buffer, then the event group. Where
there is no event group the buffer is freed. -/
def wsInit (r : InitResult) (t : WsResources) : WsResources :=
  let t := { t with recvBuf := none, eventGroup := none, wsHandle := none }
  match r with
  | .noBuffer => t
  -- freed, and the pointer kept
  | .noEventGroup => { t.acquire with recvBuf := some t.acquired }.release (some t.acquired)
  | .done =>
    { { t.acquire with recvBuf := some t.acquired }.acquire with
      eventGroup := some t.acquire.acquired }

/-- `doubao_ws_connect` up to the wait: the client is created, and started or
destroyed. -/
def wsConnect (created started : Bool) (t : WsResources) : WsResources :=
  if created then
    let u := { t.acquire with wsHandle := some t.acquired }.use (some t.acquired)
    if started then u else { u.release (some t.acquired) with wsHandle := none }
  else { t with wsHandle := none }

/-- The wait of `doubao_ws_connect`. -/
def wsConnectWait (t : WsResources) : WsResources := t.use t.eventGroup

/-- The client is stopped and destroyed. -/
def stopClient (t : WsResources) : WsResources :=
  { (t.use t.wsHandle).release t.wsHandle with wsHandle := none }

/-- `doubao_ws_destroy` up to `esp_websocket_client_stop`. -/
def wsDestroy (t : WsResources) : WsResources := t.use t.eventGroup

/-- The rest of `doubao_ws_destroy`. -/
def wsDestroyStop (t : WsResources) : WsResources :=
  let t := t.stopClient
  let t := { t.release t.recvBuf with recvBuf := none }
  { t.release t.eventGroup with eventGroup := none }

/-- `heap_caps_realloc` in `ws_event_handler`: the buffer moves. -/
def growBuffer (t : WsResources) : WsResources :=
  { (t.release t.recvBuf).acquire with recvBuf := some t.acquired }

/-- What an action of the firmware does to the resources. The commands neither
acquire nor release any of the three. -/
def follow (created : Bool) (t : WsResources) : Action → WsResources
  | .wsInit r => t.wsInit r
  | .wsConnect started => t.wsConnect created started
  | .wsConnectWait => t.wsConnectWait
  | .wsConnectStop => t.stopClient
  | .wsDestroy => t.wsDestroy
  | .wsDestroyStop => t.wsDestroyStop
  | _ => t

end WsResources

/-- A step of the firmware, or the handler moving the receive buffer. `created`
says whether `esp_websocket_client_init` succeeds; a client that was started
was created. -/
inductive ResourceAct where
  | firmware (a : Action) (created : Bool)
  | growBuffer
  deriving DecidableEq

/-- The firmware with the resources of its client. -/
structure Tracked where
  firmware : Firmware
  res : WsResources
  deriving DecidableEq

namespace Tracked

def boot : Tracked := ⟨Firmware.boot, WsResources.boot⟩

/-- One step. -/
def step (json : Json) (x : Tracked) : ResourceAct → Option Tracked
  | .firmware a created =>
    match x.firmware.step json a with
    | some s => if a = .wsConnect true ∧ created = false then none
      else some ⟨s, x.res.follow created a⟩
    | none => none
  | .growBuffer =>
    if x.firmware.ws = .idle ∧ x.firmware.client.wsHandle = true ∧ x.firmware.link = true then
      some ⟨{ x.firmware with client.recvBuf := true }, x.res.growBuffer⟩
    else none

end Tracked

/-- The firmware and the resources as a machine. -/
def clientResources (json : Json) : Machine Tracked ResourceAct where
  step := Tracked.step json

/-! ### The invariant of the pointers -/

namespace WsResources

/-- The resources the pointers name. -/
def named (t : WsResources) : List ℕ :=
  t.recvBuf.toList ++ (t.eventGroup.toList ++ t.wsHandle.toList)

/-- The client owns `owned`, and resources are numbered as they come. Which
pointer names which resource does not matter. -/
def Holding (t : WsResources) (owned : List ℕ) : Prop :=
  Ledger.Owns t.ledger owned ∧ ∀ r, .acquire r ∈ t.ledger → r < t.acquired

variable {t : WsResources} {owned owned' : List ℕ}

theorem Holding.acquire (h : t.Holding owned) : t.acquire.Holding (t.acquired :: owned) := by
  obtain ⟨howns, hnumbered⟩ := h
  have hnew : .acquire t.acquired ∉ t.ledger := by
    intro hmem
    exact lt_irrefl _ (hnumbered _ hmem)
  refine ⟨howns.acquire hnew, ?_⟩
  intro r hr
  obtain heq | hr := List.mem_cons.mp hr
  · cases heq
    exact Nat.lt_succ_self _
  · exact Nat.lt_succ_of_lt (hnumbered r hr)

theorem Holding.use (h : t.Holding owned) {p : Option ℕ} (hp : p.toList ⊆ owned) :
    (t.use p).Holding owned := by
  cases p with
  | none => exact h
  | some r =>
    refine ⟨h.1.use (hp List.mem_cons_self), ?_⟩
    intro q hq
    obtain heq | hq := List.mem_cons.mp hq
    · cases heq
    · exact h.2 q hq

theorem Holding.release {p : Option ℕ} (h : t.Holding (p.toList ++ owned)) :
    (t.release p).Holding owned := by
  cases p with
  | none => exact h
  | some r =>
    refine ⟨h.1.release, ?_⟩
    intro q hq
    obtain heq | hq := List.mem_cons.mp hq
    · cases heq
    · exact h.2 q hq

theorem Holding.perm (h : t.Holding owned) (hperm : owned.Perm owned') : t.Holding owned' :=
  ⟨h.1.perm hperm, h.2⟩

theorem Holding.sublist (h : t.Holding owned) (hsub : owned'.Sublist owned) : t.Holding owned' :=
  ⟨h.1.sublist hsub, h.2⟩

/-- What the pointers name is live, and owned once. -/
def Inv (t : WsResources) : Prop := t.Holding t.named

theorem Inv.boot : Inv boot := ⟨Ledger.Owns.nil, nofun⟩

/-- `doubao_ws_init`, unless it finds no event group. -/
theorem Inv.wsInit (h : t.Inv) {r : InitResult} (hr : r ≠ .noEventGroup) : (t.wsInit r).Inv := by
  -- `memset` forgets what the pointers named
  have hnone : t.Holding [] := Holding.sublist h (List.nil_sublist _)
  cases r with
  | noBuffer => exact hnone
  | noEventGroup => exact absurd rfl hr
  | done =>
    refine Holding.perm ?_ (List.Perm.swap _ _ _)
    exact Holding.acquire (Holding.acquire hnone)

theorem Inv.wsConnect (h : t.Inv) (created started : Bool) :
    (t.wsConnect created started).Inv := by
  -- the old handle is overwritten
  have hrest : t.Holding (t.recvBuf.toList ++ (t.eventGroup.toList ++ [])) :=
    Holding.sublist h ((List.nil_sublist _).append_left _ |>.append_left _)
  cases created with
  | false => exact hrest
  | true =>
    have hused := Holding.use (p := some t.acquired) (Holding.acquire hrest) (by simp)
    cases started with
    | false => exact Holding.release hused
    | true =>
      -- the handle is named last
      have hlast : (t.acquired :: (t.recvBuf.toList ++ (t.eventGroup.toList ++ []))).Perm
          (t.recvBuf.toList ++ (t.eventGroup.toList ++ [t.acquired])) := by
        rw [List.append_nil, ← List.append_assoc]
        exact (List.perm_append_singleton _ _).symm
      exact Holding.perm hused hlast

theorem Inv.useEventGroup (h : t.Inv) : (t.use t.eventGroup).Inv := by
  have hnamed : (t.use t.eventGroup).Holding t.named := by
    refine Holding.use h ?_
    exact List.subset_append_of_subset_right _ (List.subset_append_left _ _)
  exact hnamed

theorem Inv.stopClient (h : t.Inv) : t.stopClient.Inv := by
  have hused : (t.use t.wsHandle).Holding t.named := by
    refine Holding.use h ?_
    exact List.subset_append_of_subset_right _ (List.subset_append_right _ _)
  have hfirst : t.named.Perm
      (t.wsHandle.toList ++ (t.recvBuf.toList ++ (t.eventGroup.toList ++ []))) := by
    rw [List.append_nil, named, ← List.append_assoc]
    exact List.perm_append_comm
  exact Holding.release (Holding.perm hused hfirst)

theorem Inv.wsDestroyStop (h : t.Inv) : t.wsDestroyStop.Inv := by
  have hstopped : t.stopClient.Holding (t.recvBuf.toList ++ (t.eventGroup.toList ++ [])) :=
    h.stopClient
  exact Holding.release (Holding.release hstopped)

theorem Inv.growBuffer (h : t.Inv) : t.growBuffer.Inv :=
  Holding.acquire (Holding.release h)

/-- Every action but a `doubao_ws_init` without event group. -/
theorem Inv.follow (h : t.Inv) (created : Bool) {a : Action} (ha : a ≠ .wsInit .noEventGroup) :
    (t.follow created a).Inv := by
  cases a with
  | wsInit r => exact h.wsInit fun hr => ha (congrArg Action.wsInit hr)
  | wsConnect started => exact h.wsConnect created started
  | wsConnectWait => exact h.useEventGroup
  | wsConnectStop => exact h.stopClient
  | wsDestroy => exact h.useEventGroup
  | wsDestroyStop => exact h.wsDestroyStop
  | _ => exact h

end WsResources

/-! ### Runs -/

/-- The event group of `doubao_ws_init` cannot be created, after the buffer
was. -/
def ResourceAct.eventGroupFails : ResourceAct → Bool
  | .firmware (.wsInit .noEventGroup) _ => true
  | _ => false

/-- Which pointers are set. -/
def WsClient.pointers (c : WsClient) : Bool × Bool × Bool :=
  (c.recvBuf, c.eventGroup, c.wsHandle)

def WsResources.pointers (t : WsResources) : Bool × Bool × Bool :=
  (t.recvBuf.isSome, t.eventGroup.isSome, t.wsHandle.isSome)

namespace Tracked

variable {json : Json} {x y : Tracked}

/-- The firmware sees the pointers as they are, and `Inv` holds of them. -/
structure Inv (x : Tracked) : Prop where
  fields : x.res.pointers = x.firmware.client.pointers
  res : x.res.Inv

theorem Inv.boot : Inv boot := ⟨rfl, WsResources.Inv.boot⟩

/-- The tasks set the pointers in the client calls only. -/
theorem pointers_eq {s t : Firmware} {a : Action} (h : s.step json a = some t)
    (ha : a.isClient = false) : t.client.pointers = s.client.pointers := by
  cases Firmware.step_cases h with
  | fsm _ h =>
    cases h with
    | ready _ ht | connecting _ ht | loop _ ht | bargein _ ht | finishHandshake _ ht =>
      rw [ht.frame.2.2.2.2.1]
    | _ => rfl
  | client hclient _ => exact absurd (ha.symm.trans hclient) Bool.false_ne_true
  | receive r _ _ _ h =>
    generalize r.dispatch json = k at h
    cases h <;> rfl
  | wakeWord h => cases h <;> rfl
  | tx _ _ h => cases h <;> rfl
  | _ => rfl

/-- The pointers follow the firmware. -/
theorem follow_pointers {s t : Firmware} {u : WsResources} {a : Action} {created : Bool}
    (hfields : u.pointers = s.client.pointers) (h : s.step json a = some t)
    (hcreated : ¬ (a = .wsConnect true ∧ created = false)) :
    (u.follow created a).pointers = t.client.pointers := by
  cases hclient : a.isClient with
  | false =>
    rw [pointers_eq h hclient, ← hfields]
    cases a <;> first | rfl | cases hclient
  | true =>
    -- a call sets each pointer in both, or in neither
    have hrecv : u.recvBuf.isSome = s.client.recvBuf := congrArg (·.1) hfields
    have hgroup : u.eventGroup.isSome = s.client.eventGroup := congrArg (·.2.1) hfields
    have hhandle : u.wsHandle.isSome = s.client.wsHandle := congrArg (·.2.2) hfields
    cases a with
    | wsInit r =>
      simp only [Firmware.step, Firmware.wsInit] at h
      split at h
      · obtain rfl := Option.some.inj h
        rfl
      · obtain rfl := Option.some.inj h
        rfl
      · obtain rfl := Option.some.inj h
        rfl
      · cases h
    | wsSetRecvCallback =>
      simp only [Firmware.step, Firmware.wsSetRecvCallback] at h
      split at h
      · obtain rfl := Option.some.inj h
        exact hfields
      · cases h
    | wsConnect started =>
      simp only [Firmware.step, Firmware.wsConnect] at h
      split at h
      · cases started with
        | true =>
          -- a client that was started was created
          obtain rfl : created = true := by
            by_contra hne
            exact hcreated ⟨rfl, Bool.eq_false_iff.mpr hne⟩
          obtain rfl := Option.some.inj h
          exact Prod.ext hrecv (Prod.ext hgroup rfl)
        | false =>
          obtain rfl := Option.some.inj h
          cases created <;> exact Prod.ext hrecv (Prod.ext hgroup rfl)
      · cases h
    | wsConnectWait =>
      simp only [Firmware.step, Firmware.wsConnectWait] at h
      split at h
      · split at h
        · obtain rfl := Option.some.inj h
          exact hfields
        · obtain rfl := Option.some.inj h
          exact hfields
      · cases h
    | wsConnectStop =>
      simp only [Firmware.step, Firmware.wsConnectStop] at h
      split at h
      · split at h
        · obtain rfl := Option.some.inj h
          exact Prod.ext hrecv (Prod.ext hgroup rfl)
        · cases h
      · cases h
    | wsDestroy =>
      simp only [Firmware.step, Firmware.wsDestroy] at h
      split at h
      · obtain rfl := Option.some.inj h
        exact hfields
      · cases h
    | wsDestroyStop =>
      simp only [Firmware.step, Firmware.wsDestroyStop] at h
      split at h
      · split at h
        · obtain rfl := Option.some.inj h
          rfl
        · cases h
      · cases h
    | _ => cases hclient

/-- The step lemma: every step but a `doubao_ws_init` without event group. -/
theorem Inv.step (h : x.Inv) {a : ResourceAct} (ha : a.eventGroupFails = false)
    (hstep : (clientResources json).step x a = some y) : y.Inv := by
  cases a with
  | firmware a created =>
    simp only [clientResources, Tracked.step] at hstep
    split at hstep
    · next s hs =>
      split at hstep
      · cases hstep
      · next hcreated =>
        obtain rfl := Option.some.inj hstep
        refine ⟨follow_pointers h.fields hs hcreated, h.res.follow created ?_⟩
        rintro rfl
        cases ha
    · cases hstep
  | growBuffer =>
    simp only [clientResources, Tracked.step] at hstep
    split at hstep
    · obtain rfl := Option.some.inj hstep
      refine ⟨?_, h.res.growBuffer⟩
      exact Prod.ext rfl (Prod.ext (congrArg (·.2.1) h.fields) (congrArg (·.2.2) h.fields))
    · cases hstep

/-- The run lemma. -/
theorem inv_run {as : List ResourceAct} (ha : ∀ a ∈ as, a.eventGroupFails = false)
    (hrun : (clientResources json).run boot as = some x) : x.Inv :=
  Machine.inv_run_guarded (fun hI hG hs => Inv.step hI hG hs) Inv.boot
    (Machine.Guarded.of_forall (G := fun _ a => a.eventGroupFails = false)
      fun a hmem _ => ha a hmem) hrun

end Tracked

/-- Each pointer that is not NULL names a live resource. -/
def WsResources.NamesLive (t : WsResources) : Prop :=
  ∀ r, t.recvBuf = some r ∨ t.eventGroup = some r ∨ t.wsHandle = some r →
    Ledger.Live r t.ledger

theorem WsResources.Inv.namesLive {t : WsResources} (h : t.Inv) : t.NamesLive := by
  intro r hr
  refine h.1.live r ?_
  rw [named, List.mem_append, List.mem_append, Option.mem_toList, Option.mem_toList,
    Option.mem_toList]
  exact hr

/-- At the end of every call of the main task each pointer that is not NULL
names a live resource, and nothing is ever released twice. -/
def ReleasedOnce (json : Json) (as : List ResourceAct) : Prop :=
  ∀ as₁ as₂ x, as = as₁ ++ as₂ → (clientResources json).run Tracked.boot as₁ = some x →
    ((∃ c ok, x.firmware.fsm = .ret c ok) → x.res.NamesLive) ∧
      ∀ r, x.res.ledger.count (.release r) ≤ 1

/-- Without event group the buffer is released and its pointer kept. -/
theorem step_noEventGroup {json : Json} {x y : Tracked} {created : Bool}
    (h : (clientResources json).step x (.firmware (.wsInit .noEventGroup) created) = some y) :
    y.firmware.fsm = .ret .init false ∧ ¬ y.res.NamesLive := by
  simp only [clientResources, Tracked.step, Firmware.step, Firmware.wsInit] at h
  cases hpc : x.firmware.fsm with
  | call c =>
    rw [hpc] at h
    cases c with
    | init =>
      obtain rfl := Option.some.inj h
      refine ⟨rfl, fun hlive => ?_⟩
      exact Ledger.not_live_release _ _ (hlive x.res.acquired (Or.inl rfl))
    | _ => cases h
  | _ =>
    rw [hpc] at h
    cases h

/-- **When the client's resources are released once.** In exactly the runs in
which the event group can be created whenever the buffer was. -/
theorem releasedOnce_iff (json : Json) {as : List ResourceAct}
    (hrun : ((clientResources json).run Tracked.boot as).isSome = true) :
    ReleasedOnce json as ↔ ∀ a ∈ as, a.eventGroupFails = false := by
  obtain ⟨x, hrun⟩ := Option.isSome_iff_exists.mp hrun
  constructor
  · intro h a hmem
    -- the run up to and including the action
    obtain ⟨as₁, as₂, rfl⟩ := List.append_of_mem hmem
    obtain ⟨y, hy, hrest⟩ := Machine.run_append_inv hrun
    obtain ⟨z, hz, -⟩ := Machine.run_cons_inv hrest
    have hupto : (clientResources json).run Tracked.boot (as₁ ++ [a]) = some z :=
      (Machine.run_append y hy).trans (Machine.run_cons hz)
    have hends := h (as₁ ++ [a]) as₂ z (List.append_cons as₁ a as₂) hupto
    -- such a call ends with a pointer to the buffer it has freed
    cases a with
    | growBuffer => rfl
    | firmware a created =>
      cases a with
      | wsInit r =>
        cases r with
        | noEventGroup =>
          obtain ⟨hpc, hdead⟩ := step_noEventGroup hz
          exact absurd (hends.1 ⟨_, _, hpc⟩) hdead
        | done | noBuffer => rfl
      | _ => rfl
  · intro ha as₁ as₂ y hsplit hy
    subst hsplit
    have hI := Tracked.inv_run (fun a hmem => ha a (List.mem_append_left as₂ hmem)) hy
    exact ⟨fun _ => hI.res.namesLive, fun r => hI.res.1.sound.count_release_le_one r⟩

/-- A connection during which the buffer grows, and the clean-up after it was
lost. -/
def connectionLost : List ResourceAct :=
  bringUp.map (fun a => .firmware a true) ++ [.growBuffer, .firmware .disconnected true,
    .firmware (.fsm false) true, .firmware .wsDestroy true, .firmware .wsDestroyStop true]

theorem releasedOnce_iff_connectionLost : ReleasedOnce (fun _ _ => none) connectionLost ↔
    ∀ a ∈ connectionLost, a.eventGroupFails = false :=
  releasedOnce_iff _ (by decide +kernel)

/-- The first connection attempt finds no event group, and the next one cleans
up after it. -/
def retryAfterNoEventGroup : List ResourceAct :=
  [.appMain, .fsm false, .wsInit .noEventGroup, .fsm false, .fsm false, .wsDestroy,
    .wsDestroyStop].map fun a => .firmware a true

/-- The receive buffer is freed twice. -/
theorem bufferFreedTwice : ¬ ReleasedOnce (fun _ _ => none) retryAfterNoEventGroup := by
  intro h
  have hrun : ∃ x, (clientResources fun _ _ => none).run Tracked.boot retryAfterNoEventGroup =
      some x ∧ x.res.ledger = [.release 0, .release 0, .acquire 0] := by
    decide +kernel
  obtain ⟨x, hx, hledger⟩ := hrun
  have hcount := (h retryAfterNoEventGroup [] x (List.append_nil _).symm hx).2 0
  rw [hledger] at hcount
  exact absurd hcount (by decide)

end BoxDoubao
