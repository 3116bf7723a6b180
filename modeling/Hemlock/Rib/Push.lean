import Hemlock.Rib.Derive

/-!
# Keeping syncd's FIB in step

Each round pushes the difference between a mirror of syncd's FIB and the wanted
program, and the mirror follows the pushes that succeeded.  A push that fails may have
changed the FIB: syncd removes a route before it creates the new one.  Now and then the
mirror is anchored anew on a dump of the FIB, which has the keys but not the values, and
from then on the FIB follows the kernel for as long as the pushes succeed.
-/

namespace Hemlock.Rib

open Reconcile

/-- A mirror value that no derived program has, so that it is always pushed anew. -/
def unknownRoute : WantedRoute where
  cpu := true
  drop := true
  hops := []

/-- The mirror a dump of the FIB makes. -/
def Program.anchor (device : Program) : Program where
  routes := device.routes.map fun _ _ => unknownRoute
  neighbors := device.neighbors.map fun _ _ => ""

structure Push where
  mirror : Program
  device : Program

structure Round where
  /-- The mirror is anchored anew. -/
  verify : Bool
  wanted : Program
  succeeds : FibOp → Bool
  /-- What a push that fails leaves of the FIB. -/
  spoiled : FibOp → Program → Program

def Push.basis (push : Push) (round : Round) : Program :=
  if round.verify then push.device.anchor else push.mirror

def Round.apply (round : Round) (push : Push) (op : FibOp) : Push :=
  if round.succeeds op then ⟨push.mirror.apply op, push.device.apply op⟩
  else { push with device := round.spoiled op push.device }

def Push.round (push : Push) (round : Round) : Push :=
  (diffProgram (push.basis round) round.wanted).foldl round.apply ⟨push.basis round, push.device⟩

/-- The program has no value that stands for an unknown one. -/
structure Program.Concrete (program : Program) : Prop where
  routes : ∀ cidr : String, program.routes[cidr]? ≠ some unknownRoute
  neighbors : ∀ hop : Hop, program.neighbors[hop]? ≠ some ""

theorem deriveProgram_concrete (routes : List KernelRoute) {neighbors : List KernelNeighbor}
    (l3 : NameSet) (named : ∀ neighbor ∈ neighbors, neighbor.mac ≠ some "") :
    (deriveProgram routes neighbors l3).Concrete := by
  constructor
  case routes =>
    intro cidr hf
    obtain ⟨route, -, -, -, isUnknown⟩ := entered_of_deriveProgram hf
    unfold KernelRoute.program unknownRoute at isUnknown
    split_ifs at isUnknown <;> simp at isUnknown
  case neighbors =>
    intro hop hf
    obtain ⟨neighbor, hl, isEmpty⟩ := mac_of_foldl_addNeighbor l3 neighbors hf
    exact named neighbor hl isEmpty

theorem anchor_anchors (device : Program) {wanted : Program} (concrete : wanted.Concrete) :
    device.anchor.Anchors device wanted where
  routes := (shadows_map unknownRoute device.routes).trusted concrete.routes
  knownRoutes := (shadows_map unknownRoute device.routes).known
  neighbors := (shadows_map "" device.neighbors).trusted concrete.neighbors
  knownNeighbors := (shadows_map "" device.neighbors).known

/-- The round pushes what is derived from the kernel's tables, and every push succeeds. -/
def Round.Settled (round : Round) : Prop :=
  (∃ routes neighbors l3, (∀ neighbor ∈ neighbors, neighbor.mac ≠ some "") ∧
    round.wanted = deriveProgram routes neighbors l3) ∧ ∀ op, round.succeeds op = true

variable {push : Push} {round : Round}

theorem foldl_apply (succeeds : ∀ op, round.succeeds op = true) (ops : List FibOp) (mirror device : Program) :
    ops.foldl round.apply ⟨mirror, device⟩ =
      ⟨ops.foldl Program.apply mirror, ops.foldl Program.apply device⟩ := by
  induction ops generalizing mirror device with
  | nil => rfl
  | cons op ops ih =>
    rw [List.foldl_cons, Round.apply, if_pos (succeeds op), ih]
    rfl

theorem round_converges (held : round.verify = true ∨ push.mirror = push.device)
    (settled : round.Settled) : push.round round = ⟨round.wanted, round.wanted⟩ := by
  obtain ⟨⟨routes, neighbors, l3, named, derived⟩, succeeds⟩ := settled
  have concrete : round.wanted.Concrete := derived ▸ deriveProgram_concrete routes l3 named
  have anchors : (push.basis round).Anchors push.device round.wanted := by
    unfold Push.basis
    split_ifs with verify
    · exact anchor_anchors push.device concrete
    · rw [held.resolve_left verify]
      exact push.device.anchors_self round.wanted
  rw [Push.round, foldl_apply succeeds, anchors.foldl_diffProgram,
    ((push.basis round).anchors_self round.wanted).foldl_diffProgram]

theorem rounds_converge (rounds : List Round) (held : round.verify = true ∨ push.mirror = push.device)
    (settled : ∀ later ∈ round :: rounds, later.Settled) :
    (round :: rounds).foldl Push.round push =
      ⟨((round :: rounds).getLast (by simp)).wanted, ((round :: rounds).getLast (by simp)).wanted⟩ := by
  have converges := round_converges held (settled round List.mem_cons_self)
  induction rounds generalizing push round with
  | nil => exact converges
  | cons next rounds ih =>
    have later := fun later hl => settled later (List.mem_cons_of_mem _ hl)
    have agree : (push.round round).mirror = (push.round round).device := by rw [converges]
    rw [List.foldl_cons, List.getLast_cons (List.cons_ne_nil _ _)]
    exact ih (.inr agree) later (round_converges (.inr agree) (later next List.mem_cons_self))

end Hemlock.Rib
