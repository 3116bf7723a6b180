import Hemlock.Routing.Service

/-!
# Interfaces that may have an address

A port and a VLAN take an address in the same way, and lose it in the same way.
-/

namespace Hemlock.Routing

open Contracts OrderedMap World VlanState
open Acl (Status)
open Switching (Oid sviVlanId)

/-- What may have an address: a port, or a VLAN. -/
inductive Interface where
  | port (name : String)
  | vlan (id : UInt16)
  deriving DecidableEq

def interfaceOf (name : String) : Interface :=
  match sviVlanId name with
  | some vlan => .vlan vlan
  | none => .port name

def World.l3At {δ : Type} (w : World δ) : Interface → Option L3State
  | .port name => w.ports[name]?.bind PortState.l3
  | .vlan id => w.vlans[id]?.bind VlanState.l3

def oldDests (existing : Option L3State) : List IpPrefix :=
  existing.elim [] fun l3 => routeDests l3.address

theorem getElem?_modify_ne {κ State : Type} {cmp : κ → κ → Ordering} [Std.TransCmp cmp] [Std.LawfulEqCmp cmp]
    [DecidableEq κ] {table : Std.ExtTreeMap κ State cmp} {change : State → State} {key other : κ} (ne : other ≠ key) :
    (table.modify key change)[other]? = table[other]? := by
  rw [lookup_modify, if_neg ne.symm]

/-- One interface has another address, and nothing else is recorded anew. -/
structure Readdressed {δ : Type} (before after : World δ) (iface : Interface) (l3 : Option L3State) :
    Prop where
  here : after.l3At iface = l3
  elsewhere : ∀ other, other ≠ iface → after.l3At other = before.l3At other
  fib : after.fib = before.fib

section

variable {δ : Type} {backend : Backend δ} {req : SetInterfaceAddressRequest} {w : World δ}

/-- The call that makes a router interface for an interface of the switch. -/
def World.creates (w : World δ) (backend : Backend δ) : Interface → Sai δ Oid
  | .port name => w.ports[name]?.elim (throw "") fun port => backend.createRouterInterface port.saiId
  | .vlan id => backend.createVlanRif (w.vlans[id]?.bind VlanState.oid)

def World.record (iface : Interface) (l3 : L3State) (w : World δ) : World δ :=
  match iface with
  | .port name =>
    { w with ports := w.ports.modify name fun port => { port with l3 := some l3 } }
  | .vlan id =>
    { w with
      vlans := w.vlans.insert id { oid := w.vlans[id]?.bind VlanState.oid, l3 := some l3 } }

def World.removes (w : World δ) (backend : Backend δ) (rif : Oid) : Interface → Sai δ Unit
  | .port name => w.ports[name]?.elim (throw "") fun port => backend.removeRouterInterface port.saiId rif
  | .vlan _ => backend.removeVlanRif rif

def World.unrecord (iface : Interface) (w : World δ) : World δ :=
  match iface with
  | .port name => { w with ports := w.ports.modify name fun port => { port with l3 := none } }
  | .vlan id => { w with vlans := w.vlans.modify id fun state => { state with l3 := none } }

/-- The interface is there, and it may have an address. -/
def World.admits (w : World δ) : Interface → Bool
  | .port name => w.ports[name]?.any fun port => !port.switchport
  | .vlan id => w.vlans.contains id || id = 1

def World.hasAddress (w : World δ) (iface : Interface) (address : String) : Bool :=
  (w.l3At iface).any fun l3 => l3.address = address

theorem readdressed_record {iface : Interface} {l3 : L3State} (ha : w.admits iface = true) :
    Readdressed w (w.record iface l3) iface (some l3) := by
  cases iface with
  | port name =>
    obtain ⟨port, hf, -⟩ := Option.any_eq_true _ _ |>.mp ha
    refine ⟨by simp [l3At, record, hf], ?_, rfl⟩
    rintro (other | id) ne
    · have apart : other ≠ name := fun hs => ne (hs ▸ rfl)
      simp [l3At, record, getElem?_modify_ne apart]
    · rfl
  | vlan id =>
    refine ⟨by simp [l3At, record], ?_, rfl⟩
    rintro (name | other) ne
    · rfl
    · have apart : id ≠ other := fun hs => ne (hs ▸ rfl)
      simp [l3At, record, lookup_insert, apart]

theorem readdressed_unrecord {iface : Interface} : Readdressed w (w.unrecord iface) iface none := by
  cases iface with
  | port key | vlan key =>
    refine ⟨by simp [l3At, unrecord], ?_, rfl⟩
    rintro (other | other) ne
    all_goals first
      | rfl
      | exact congrArg (Option.bind · _) (getElem?_modify_ne fun hs => ne (hs ▸ rfl))

theorem setInterfaceAddress_refused
    (refused : w.admits (interfaceOf req.name) = false ∨ ∀ dest, parseCidr req.address ≠ .ok dest) :
    ∃ failure, setInterfaceAddress backend req w = .error failure w := by
  unfold setInterfaceAddress
  cases hp : parseCidr req.address with
  | error text => exact ⟨_, rfl⟩
  | ok dest =>
    have refused := refused.resolve_right fun never => never dest hp
    unfold interfaceOf at refused
    cases isSvi : sviVlanId req.name with
    | some vlan =>
      rw [isSvi] at refused
      obtain ⟨ha, isOther⟩ := Bool.or_eq_false_iff.mp refused
      have ha := getElem?_eq_none_of_contains_eq_false ha
      refine ⟨⟨.failedPrecondition, "VLAN " ++ toString vlan.toNat ++ " is not defined (set vlans vlan "
        ++ toString vlan.toNat ++ ")"⟩, (bind_of_ok rfl).trans ?_⟩
      dsimp only
      rw [setSviAddress, get_bind_apply]
      rw [if_pos ⟨by rw [ha]; rfl, of_decide_eq_false isOther⟩]
      rfl
    | none =>
      rw [isSvi] at refused
      dsimp only [admits] at refused
      change ∃ failure, setPortAddress backend req.name req.address dest w = .error failure w
      rw [setPortAddress, get_bind_apply]
      cases hf : w.ports[req.name]? with
      | none => exact ⟨_, rfl⟩
      | some port =>
        have isSwitchport : port.switchport = true := by simpa [hf] using refused
        simp only [isSwitchport]
        exact ⟨_, rfl⟩

variable {dest : IpPrefix}

/-- An admitted request readdresses the interface, unless it has the address already. -/
theorem setInterfaceAddress_admitted (admitted : w.admits (interfaceOf req.name) = true)
    (hp : parseCidr req.address = .ok dest) :
    setInterfaceAddress backend req w =
      (if w.hasAddress (interfaceOf req.name) req.address = true then pure () else do
        let rif ← readdress backend (w.l3At (interfaceOf req.name))
          (w.creates backend (interfaceOf req.name)) dest
        modify (record (interfaceOf req.name) ⟨rif, req.address⟩)) w := by
  unfold setInterfaceAddress
  rw [hp]
  unfold interfaceOf at admitted ⊢
  refine (bind_of_ok rfl).trans ?_
  cases isSvi : sviVlanId req.name with
  | some vlan =>
    rw [isSvi] at admitted
    dsimp only
    rw [setSviAddress, get_bind_apply]
    have hk : ¬ (w.vlans[vlan]?.isNone = true ∧ vlan ≠ 1) := by
      rintro ⟨isNone, isOther⟩
      rw [Option.isNone_iff_eq_none] at isNone
      have ha : vlan ∉ w.vlans := fun hk => by
        rw [mem_iff_isSome_getElem?, isNone] at hk
        cases hk
      simp [admits, ha, isOther] at admitted
    rw [if_neg hk]
    rfl
  | none =>
    rw [isSvi] at admitted
    obtain ⟨port, hf, free⟩ := Option.any_eq_true _ _ |>.mp admitted
    have isFree : ¬ port.switchport = true := by simpa using free
    simp only [setPortAddress, get_bind_apply, creates, hasAddress, l3At, hf, if_neg isFree]
    rfl

theorem setInterfaceAddress_same (ha : w.admits (interfaceOf req.name) = true)
    (hp : parseCidr req.address = .ok dest) (hs : w.hasAddress (interfaceOf req.name) req.address = true) :
    setInterfaceAddress backend req w = .ok () w := by
  rw [setInterfaceAddress_admitted ha hp, if_pos hs]
  rfl

variable {Before After Failed : World δ → Prop}

theorem contract_setInterfaceAddress (refused : ∀ w, Before w → Failed w)
    (same : ∀ w dest, Before w → w.admits (interfaceOf req.name) = true →
      parseCidr req.address = .ok dest → w.hasAddress (interfaceOf req.name) req.address = true → After w)
    (readdresses : ∀ w dest, Before w → w.admits (interfaceOf req.name) = true →
      parseCidr req.address = .ok dest → w.hasAddress (interfaceOf req.name) req.address = false →
      Contract (fun state => state = w)
        (do
          let rif ← readdress backend (w.l3At (interfaceOf req.name))
            (w.creates backend (interfaceOf req.name)) dest
          modify (record (interfaceOf req.name) ⟨rif, req.address⟩))
        (fun _ => After) Failed) :
    Contract Before (setInterfaceAddress backend req) (fun _ => After) Failed := by
  intro w before
  cases hp : parseCidr req.address with
  | error text =>
    obtain ⟨failure, isRefused⟩ := @setInterfaceAddress_refused _ backend req w
      (.inr fun dest => by rw [hp]; simp)
    rw [isRefused]
    exact refused w before
  | ok dest =>
    cases ha : w.admits (interfaceOf req.name) with
    | false =>
      obtain ⟨failure, isRefused⟩ := @setInterfaceAddress_refused _ backend req w (.inl ha)
      rw [isRefused]
      exact refused w before
    | true =>
      cases has : w.hasAddress (interfaceOf req.name) req.address with
      | true =>
        rw [setInterfaceAddress_same ha hp has]
        exact same w dest before ha hp has
      | false =>
        rw [setInterfaceAddress_admitted ha hp, if_neg (Bool.eq_false_iff.mp has)]
        exact readdresses w dest before ha hp has w rfl

theorem contract_clearInterfaceAddress {name : String} (refused : ∀ w, Before w → Failed w)
    (idle : ∀ w, Before w → w.l3At (interfaceOf name) = none → After w)
    (clears : ∀ w l3, Before w → w.l3At (interfaceOf name) = some l3 →
      Contract (fun state => state = w)
        (do
          teardownL3 backend l3 (w.removes backend l3.rif (interfaceOf name))
          modify (unrecord (interfaceOf name)))
        (fun _ => After) Failed) :
    Contract Before (clearInterfaceAddress backend name) (fun _ => After) Failed := by
  refine contract_get_bind fun w before => ?_
  have idle := idle w before
  have clears := fun l3 => clears w l3 before
  unfold interfaceOf at idle clears
  generalize sviVlanId name = svi at idle clears ⊢
  cases svi with
  | some vlan =>
    dsimp only
    cases hf : w.vlans[vlan]?.bind l3 with
    | none => exact contract_pure fun _ isStart => isStart ▸ idle hf
    | some l3 => exact clears l3 hf
  | none =>
    dsimp only [l3At, removes] at idle clears ⊢
    cases hk : w.ports[name]? with
    | none => exact contract_throw fun _ isStart => isStart ▸ refused w before
    | some port =>
      rw [hk] at idle clears
      dsimp only
      cases hf : port.l3 with
      | none => exact contract_pure fun _ isStart => isStart ▸ idle hf
      | some l3 => exact clears l3 hf

end

end Hemlock.Routing
