import Hemlock.Library.Contracts
import Hemlock.PortSecurity.Books

/-!
# Requests and the books

A request takes several steps and may stop at any of them.  What each step keeps, the
request keeps wherever it stops.
-/

namespace Hemlock.PortSecurity

open Mailbox OrderedMap Rpc

section

variable {w : World} {port mac : String} {now : Nat}

theorem mem_seed {dynamics : FdbMap} : mac ∈ seed dynamics port ↔ OnPort dynamics port mac := by
  simp only [seed, List.mem_map, List.mem_filter, decide_eq_true_eq]
  constructor
  · rintro ⟨⟨⟨vlan, _⟩, entry⟩, ⟨hm, hp⟩, rfl⟩
    exact ⟨vlan, entry, mem_toList_iff_getElem?_eq_some.mp hm, hp⟩
  · rintro ⟨vlan, entry, hf, hp⟩
    exact ⟨((vlan, mac), entry), ⟨mem_toList_iff_getElem?_eq_some.mpr hf, hp⟩, rfl⟩

theorem mem_foldl_insertIfNew (macs : List String) (learned : NameMap Nat) :
    mac ∈ macs.foldl (fun learned mac => learned.insertIfNew mac now) learned ↔
      mac ∈ learned ∨ mac ∈ macs := by
  induction macs generalizing learned with
  | nil => simp
  | cons first macs ih =>
    rw [List.foldl_cons, ih, Std.ExtTreeMap.mem_insertIfNew, Std.LawfulEqCmp.compare_eq_iff_eq,
      List.mem_cons]
    constructor
    · rintro ((rfl | hk) | later)
      · exact .inr (.inl rfl)
      · exact .inl hk
      · exact .inr (.inr later)
    · rintro (hk | rfl | later)
      · exact .inl (.inr hk)
      · exact .inl (.inl rfl)
      · exact .inr later

theorem Books.secure (books : Books w) {req : SetPortSecurityRequest}
    (silent : req.port ∈ w.portSecurity ∨ ∀ note ∈ w.fdbEvents, note.port ≠ some req.port) :
    Books (secure req now w) where
  __ := books
  settles port state' hf' mac := by
    rw [PortSecurity.secure, lookup_insert] at hf'
    split_ifs at hf' with hp
    · subst hp
      cases hf'
      rw [propext (mem_foldl_insertIfNew _ _), propext mem_seed]
      change settled _ _ w.fdbEvents ↔ OnPort w.dynamics _ mac
      cases hf : w.portSecurity[req.port]? with
      | some state =>
        have settles := books.settles req.port state hf mac
        rw [← settles]
        refine iff_of_eq (settled_congr fun quiet => propext ?_)
        rw [settled_of_silent quiet]
        exact or_self_iff
      | none =>
        have quiet : ∀ note ∈ w.fdbEvents, news req.port mac note = none := by
          refine fun note hm => news_of_unnamed (silent.resolve_left (fun secured => ?_) note hm)
          rw [mem_iff_isSome_getElem?, hf] at secured
          cases secured
        rw [settled_of_silent quiet]
        simp
    · exact books.settles port state' hf' mac

end

def Rpc.Keeps {Value : Type} (rpc : Rpc Value) (Holds : World → Prop) : Prop :=
  ∀ w, Holds w → Holds (rpc.after w)

section

variable {Value Result : Type} {rpc : Rpc Value} {next : Value → Rpc Result} {Holds : World → Prop}
  {w : World}

theorem Rpc.after_bind_of_ok {value : Value} {after : World} (ran : rpc w = .ok value after) :
    (rpc >>= next).after w = (next value).after after := by
  have unfolded : (rpc >>= next) w = EStateM.bind rpc next w := rfl
  rw [Rpc.after, unfolded, EStateM.bind, ran, Rpc.after]

theorem Rpc.after_bind (w : World) : (rpc >>= next).after w = rpc.after w ∨
      ∃ value, (rpc >>= next).after w = (next value).after (rpc.after w) := by
  have unfolded : (rpc >>= next) w = EStateM.bind rpc next w := rfl
  cases ran : rpc w with
  | ok value after =>
    refine .inr ⟨value, (Rpc.after_bind_of_ok ran).trans ?_⟩
    rw [Rpc.after, Rpc.after, Rpc.after, ran]
  | error status after =>
    refine .inl ?_
    rw [Rpc.after, unfolded, EStateM.bind, Rpc.after, ran]

theorem Rpc.Keeps.bind (first : rpc.Keeps Holds) (second : ∀ value, (next value).Keeps Holds) :
    (rpc >>= next).Keeps Holds := by
  intro w holds
  rcases @after_bind _ _ rpc next w with hs | ⟨value, hs⟩
  · rw [hs]
    exact first w holds
  · rw [hs]
    exact second value _ (first w holds)

theorem keeps_pure (value : Value) : (pure value : Rpc Value).Keeps Holds := fun _ => id

theorem keeps_throw (status : Acl.Status) : (throw status : Rpc Value).Keeps Holds := fun _ => id

theorem keeps_modify {change : World → World} (kept : ∀ w, Holds w → Holds (change w)) :
    (modify change : Rpc Unit).Keeps Holds := kept

theorem keeps_portSaiId (port : String) : (portSaiId port).Keeps Holds := by
  intro w holds
  have unfolded : (portSaiId port).after w = w := by
    rw [after, portSaiId, Contracts.get_bind_apply]
    cases w.ports[port]? <;> rfl
  rwa [unfolded]

variable (backend : Backend)

theorem keeps_setPortLearnLimit : (setPortLearnLimit backend).Keeps Holds := by
  unfold setPortLearnLimit
  cases backend.learnLimit
  · exact keeps_pure ()
  · exact keeps_pure ()
  · exact keeps_throw _

theorem keeps_require (succeeds : Bool) : (require backend succeeds).Keeps Holds := by
  unfold require
  split_ifs
  · exact keeps_pure ()
  · exact keeps_throw _

theorem Unaffected.enable (port : String) (w : World) : Unaffected w (enable port w) := by
  unfold PortSecurity.enable
  cases w.ports[port]? with
  | none => exact .refl w
  | some hk => exact ⟨rfl, rfl, (Unaffected.refl w).learned, fun port' hk' =>
    member_insert.mpr (.inr hk')⟩

theorem keeps_reenable (port : String)
    (stable : ∀ before after, Holds before → Unaffected before after → Holds after) :
    (reenableIfPsecErrdisabled backend port).Keeps Holds := by
  refine Rpc.Keeps.bind (fun _ => id) fun w => ?_
  split_ifs
  · refine (keeps_portSaiId port).bind fun _ => (keeps_require backend _).bind fun _ => ?_
    exact keeps_modify fun w holds => stable w _ holds (.enable port w)
  · exact keeps_pure ()

theorem setPortSecurityImpl_keeps (req : SetPortSecurityRequest) (now : Nat)
    (secures : ∀ w, Holds w → Holds (secure req now w)) :
    (setPortSecurityImpl backend req now).Keeps Holds := by
  unfold setPortSecurityImpl
  split_ifs
  · exact Rpc.Keeps.bind (keeps_throw _) fun _ => (keeps_portSaiId _).bind fun _ =>
      (keeps_setPortLearnLimit backend).bind fun _ => keeps_modify secures
  · exact (keeps_portSaiId _).bind fun _ =>
      (keeps_setPortLearnLimit backend).bind fun _ => keeps_modify secures

theorem clearPortSecurityImpl_unaffected (port : String) (w : World) :
    Unaffected w ((clearPortSecurityImpl backend port).after w) := by
  have erased : Unaffected w { w with portSecurity := w.portSecurity.erase port } := by
    refine ⟨rfl, rfl, fun port' state hf => ⟨state, ?_, rfl⟩, fun _ => id⟩
    rw [lookup_erase] at hf
    split_ifs at hf
    exact hf
  have finish : (do
      if w.portSecurity.contains port then
        let _ ← portSaiId port
        setPortLearnLimit backend
        setPortLearning backend port
        reenableIfPsecErrdisabled backend port : Rpc Unit).Keeps (Unaffected w) := by
    split_ifs
    · exact (keeps_portSaiId port).bind fun _ => (keeps_setPortLearnLimit backend).bind fun _ =>
        (keeps_require backend _).bind fun _ => keeps_reenable backend port fun _ _ => .trans
    · exact keeps_pure ()
  exact finish _ erased

end

section

variable {board : Board} {backend : Backend} {w : World} {port : String}

/-- Reports are the same, and no address is on a port that was not there. -/
structure Shrinks (before after : World) : Prop where
  fdbEvents : after.fdbEvents = before.fdbEvents
  onPort : ∀ port mac, OnPort after.dynamics port mac → OnPort before.dynamics port mac
  ports : ∀ port ∈ before.ports, port ∈ after.ports

theorem Shrinks.refl (w : World) : Shrinks w w := ⟨rfl, fun _ _ => id, fun _ => id⟩

theorem Shrinks.trans {first second third : World} (early : Shrinks first second)
    (late : Shrinks second third) : Shrinks first third :=
  ⟨late.fdbEvents.trans early.fdbEvents, fun port mac on => early.onPort port mac (late.onPort port mac on),
    fun port hk => late.ports port (early.ports port hk)⟩

variable {before after : World}

theorem Unaffected.shrinks (unaffected : Unaffected before after) : Shrinks before after :=
  ⟨unaffected.fdbEvents, fun port mac on => by rwa [unaffected.dynamics] at on, unaffected.ports⟩

theorem Resettable.shrinks (resettable : Resettable board backend before port)
    (shrinks : Shrinks before after) : Resettable board backend after port where
  silent := by
    rw [shrinks.fdbEvents]
    exact resettable.silent
  flushed := by
    rcases resettable.flushed with ⟨flushes, hk, learns⟩ | empty
    · exact .inl ⟨flushes, shrinks.ports port hk, learns⟩
    · exact .inr fun mac on => empty mac (shrinks.onPort port mac on)

theorem shrinks_forgetLearned (port : String) (w : World) : Shrinks w (forgetLearned port w) := by
  unfold forgetLearned
  cases w.portSecurity[port]? with
  | none => exact .refl w
  | some state => exact ⟨rfl, fun _ _ => id, fun _ => id⟩

theorem shrinks_flushPort (port : String) (w : World) : Shrinks w (flushPort port w) :=
  ⟨rfl, fun _ _ on => ((onPort_flush port).mp on).2, fun _ => id⟩

theorem resetPort_shrinks (w : World) : Shrinks w ((resetPort backend board port).after w) := by
  have kept : (resetPort backend board port).Keeps (Shrinks w) := by
    refine (keeps_modify fun middle shrinks => shrinks.trans (shrinks_forgetLearned port middle)).bind
      fun _ => (keeps_portSaiId port).bind fun _ => (keeps_require backend _).bind fun _ => ?_
    have finish : (reenableIfPsecErrdisabled backend port).Keeps (Shrinks w) :=
      keeps_reenable backend port fun _ _ shrinks unaffected => shrinks.trans unaffected.shrinks
    split_ifs
    · exact (keeps_modify fun middle shrinks => shrinks.trans (shrinks_flushPort port middle)).bind
        fun _ => finish
    · exact finish
  exact kept w (.refl w)

theorem dynamics_forgetLearned (port : String) (w : World) :
    (forgetLearned port w).dynamics = w.dynamics := by
  unfold forgetLearned
  cases w.portSecurity[port]? <;> rfl

theorem Books.emptied (books : Books w) (silent : ∀ note ∈ w.fdbEvents, note.port ≠ some port)
    {after : World} (fdbEvents : after.fdbEvents = w.fdbEvents)
    (portSecurity : after.portSecurity = (forgetLearned port w).portSecurity)
    (empty : ∀ mac, ¬ OnPort after.dynamics port mac) (others : ∀ port' mac, port' ≠ port →
      (OnPort after.dynamics port' mac ↔ OnPort w.dynamics port' mac)) : Books after := by
  refine ⟨fun port' state' hf' mac => ?_, by rw [fdbEvents]; exact books.formatted⟩
  rw [portSecurity] at hf'
  rw [fdbEvents]
  unfold forgetLearned at hf'
  by_cases hp : port' = port
  · subst hp
    rw [settled_of_silent fun note hm => news_of_unnamed (silent note hm)]
    cases hf : w.portSecurity[port']? with
    | none =>
      rw [hf] at hf'
      rw [hf] at hf'
      cases hf'
    | some state =>
      rw [hf] at hf'
      dsimp only at hf'
      rw [getElem?_insert_self] at hf'
      cases hf'
      exact iff_of_false (by simp) (empty mac)
  · rw [others port' mac hp]
    apply books.settles port' state'
    cases hf : w.portSecurity[port]? with
    | none => rwa [hf] at hf'
    | some state =>
      rw [hf] at hf'
      rwa [lookup_insert, if_neg (by simpa using Ne.symm hp)] at hf'

structure Idle (port : String) (w : World) : Prop where
  books : Books w
  silent : ∀ note ∈ w.fdbEvents, note.port ≠ some port
  empty : ∀ mac, ¬ OnPort w.dynamics port mac

theorem Idle.forgetLearned (idle : Idle port w) : Idle port (forgetLearned port w) where
  books := idle.books.emptied idle.silent (shrinks_forgetLearned port w).fdbEvents rfl
    (by rw [dynamics_forgetLearned]; exact idle.empty) (by simp [dynamics_forgetLearned])
  silent := by
    rw [(shrinks_forgetLearned port w).fdbEvents]
    exact idle.silent
  empty := by
    rw [dynamics_forgetLearned]
    exact idle.empty

theorem Idle.flushPort (idle : Idle port w) : Idle port (flushPort port w) where
  __ := idle
  books := by
    refine ⟨fun port' state hf mac => ?_, idle.books.formatted⟩
    rw [PortSecurity.flushPort, onPort_flush, and_iff_right_of_imp]
    · exact idle.books.settles port' state hf mac
    · rintro on rfl
      exact idle.empty mac on
  empty mac on := idle.empty mac ((onPort_flush port).mp on).2

theorem Idle.unaffected {after : World} (idle : Idle port w) (unaffected : Unaffected w after) :
    Idle port after where
  books := idle.books.unaffected unaffected
  silent := by
    rw [unaffected.fdbEvents]
    exact idle.silent
  empty := by
    rw [unaffected.dynamics]
    exact idle.empty

theorem portSaiId_of_known (hk : port ∈ w.ports) : ∃ saiId, portSaiId port w = .ok saiId w := by
  obtain ⟨state, hf⟩ :=
    exists_of_mem hk
  refine ⟨state.saiId, ?_⟩
  rw [portSaiId, Contracts.get_bind_apply, hf]
  rfl

theorem resetPort_flushes (flushes : board.fdbFlush = true) (hk : port ∈ w.ports)
    (learns : backend.portLearning port = true) : (resetPort backend board port).after w =
      (reenableIfPsecErrdisabled backend port).after (flushPort port (forgetLearned port w)) := by
  obtain ⟨saiId, isKnown⟩ :=
    portSaiId_of_known ((shrinks_forgetLearned port w).ports port hk)
  have learning : setPortLearning backend port (forgetLearned port w) =
      .ok () (forgetLearned port w) := by
    rw [setPortLearning, learns]
    rfl
  have unfolded : (resetPort backend board port).after w = (do
      let _ ← portSaiId port
      setPortLearning backend port
      modify (flushPort port)
      reenableIfPsecErrdisabled backend port : Rpc Unit).after (forgetLearned port w) := by
    rw [resetPort, flushes]
    rfl
  rw [unfolded, after_bind_of_ok isKnown, after_bind_of_ok learning]
  rfl

theorem resetPort_keeps_idle : (resetPort backend board port).Keeps (Idle port) := by
  have finish : (reenableIfPsecErrdisabled backend port).Keeps (Idle port) :=
    keeps_reenable backend port fun _ _ => Idle.unaffected
  refine (keeps_modify fun _ => Idle.forgetLearned).bind fun _ => (keeps_portSaiId port).bind
    fun _ => (keeps_require backend _).bind fun _ => ?_
  split_ifs
  · exact (keeps_modify fun _ => Idle.flushPort).bind fun _ => finish
  · exact finish

theorem Books.resetPort (books : Books w) (resettable : Resettable board backend w port) :
    Books ((resetPort backend board port).after w) := by
  rcases resettable.flushed with ⟨flushes, hk, learns⟩ | empty
  · rw [resetPort_flushes flushes hk learns]
    refine keeps_reenable backend port (fun _ _ => Books.unaffected) _ ?_
    refine books.emptied resettable.silent (shrinks_forgetLearned port w).fdbEvents rfl
      (fun mac on => ((onPort_flush port).mp on).1 rfl) fun port' mac other => ?_
    rw [flushPort, onPort_flush, dynamics_forgetLearned, and_iff_right other]
  · exact (resetPort_keeps_idle w ⟨books, resettable.silent, empty⟩).books

theorem Books.resetPorts {ports : List String} (books : Books w)
    (resettable : ∀ port ∈ ports, Resettable board backend w port) :
    Books ((resetPorts backend board ports).after w) := by
  induction ports generalizing w with
  | nil => exact books
  | cons port ports ih =>
    have first := books.resetPort (resettable port (List.mem_cons_self ..))
    have shrinks := @resetPort_shrinks board backend port w
    rcases @after_bind _ _ (PortSecurity.resetPort backend board port)
        (fun _ => PortSecurity.resetPorts backend board ports) w with hs | ⟨_, hs⟩
    · exact hs ▸ first
    · exact hs ▸ ih first fun port' later =>
        (resettable port' (List.mem_cons_of_mem _ later)).shrinks shrinks

theorem Books.resetPortSecurityImpl (books : Books w) {filter : String}
    (resettable : ∀ port ∈ selected filter w, Resettable board backend w port) :
    Books ((resetPortSecurityImpl backend board filter).after w) := by
  have unfolded : (PortSecurity.resetPortSecurityImpl backend board filter).after w = (do
      if filter ≠ "" ∧ selected filter w = [] then
        throw ⟨.notFound, "port-security is not enabled on " ++ filter⟩
      PortSecurity.resetPorts backend board (selected filter w)
      return UInt32.ofNat (selected filter w).length : Rpc UInt32).after w := rfl
  rw [unfolded]
  split_ifs
  · exact books
  · rcases @after_bind _ _ (PortSecurity.resetPorts backend board (selected filter w))
      (fun _ => pure (UInt32.ofNat (selected filter w).length)) w with hs | ⟨_, hs⟩
    all_goals exact hs ▸ books.resetPorts resettable

end

end Hemlock.PortSecurity
