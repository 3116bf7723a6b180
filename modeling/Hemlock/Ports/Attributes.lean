import Hemlock.Intent.Reading
import Hemlock.Library.Machine
import Hemlock.Library.Refusal

/-!
# Attributes of a port

Two requests write the admin state of a port: one sets the attributes that an operator
configures, the other disables the port after an error.  The first also pins speed and
duplex, and releases them again.
-/

namespace Hemlock.Ports

open Acl Intent Machine Refusal

structure PortDef where
  name : String
  speedMbps : UInt32
  autoneg : Bool
  supportedModes : List String

/-- What an operator pinned; an absent field runs at the platform's default. -/
structure LinkConfig where
  speedMbps : Option UInt32 := none
  duplex : Option Duplex := none
  autoneg : Option Bool := none
  mtu : Option UInt32 := none

def portMtu : UInt32 := 9100

structure PortHardware where
  adminUp : Bool := true
  autoneg : Bool
  speedMbps : UInt32
  fullDuplex : Bool := true
  mtu : UInt32 := portMtu

structure PortState where
  manifest : PortDef
  adminUp : Bool := true
  errdisableReason : Option String := none
  link : LinkConfig := {}
  hardware : PortHardware

def PortState.autoneg (port : PortState) : Bool := port.link.autoneg.getD port.manifest.autoneg

def parseMode (token : String) : Option (UInt32 × Duplex) :=
  match token.toList.span (· ≠ '/') with
  | (_, []) => none
  | (speed, _ :: duplex) => do
    let speed ← parseSpeed (String.ofList speed)
    let duplex ← Duplex.parse (String.ofList duplex)
    return (speed, duplex)

def formatSpeed (speed : UInt32) : String :=
  if 1000 ≤ speed ∧ speed % 1000 = 0 then toString (speed / 1000).toNat ++ "G"
  else toString speed.toNat ++ "M"

def formatMode (speed : UInt32) (duplex : Duplex) : String := formatSpeed speed ++ "/" ++ duplex.word

def modeSupported (modes : List String) (speed : UInt32) (duplex : Duplex) : Bool :=
  (modes.all fun token => lowercase token = "auto") ||
    (modes.filterMap parseMode).contains (speed, duplex)

structure SetPortAttrsRequest where
  adminState : Option Int32 := none
  speedMbps : Option UInt32 := none
  duplex : Option String := none
  mtu : Option UInt32 := none

def SetPortAttrsRequest.carriesLink (req : SetPortAttrsRequest) : Bool :=
  req.speedMbps.isSome || req.duplex.isSome

def wantedDuplex (word : String) : Except Status (Option Duplex) :=
  if word = "auto" ∨ word = "" then .ok none
  else
    match Duplex.parse word with
    | some duplex => .ok (some duplex)
    | none => .error ⟨.invalidArgument, "bad duplex " ++ debug word ++ " (auto, full or half)"⟩

def checkMtu : Option UInt32 → Except Status Unit
  | none => .ok ()
  | some mtu =>
    if mtu = 0 then .ok ()
    else (validMtu mtu.toNat).mapError fun text => ⟨.invalidArgument, text⟩

def LinkConfig.forced (link : LinkConfig) : Bool := link.speedMbps.isSome || link.duplex.isSome

def pinned (value : UInt32) : Option UInt32 := if value = 0 then none else some value

/-- Forcing speed or duplex turns auto-negotiation off; nothing forced is the manifest's declaration. -/
def LinkConfig.fold (link : LinkConfig) (req : SetPortAttrsRequest) (duplex : Option Duplex) : LinkConfig :=
  let speedMbps := (req.speedMbps.map pinned).getD link.speedMbps
  let mtu := (req.mtu.map pinned).getD link.mtu
  let forced := speedMbps.isSome || duplex.isSome
  let autoneg := if req.carriesLink then (if forced then some false else none) else link.autoneg
  { speedMbps, duplex, autoneg, mtu }

def checkMode (manifest : PortDef) (carriesLink : Bool) (link : LinkConfig) : Except Status Unit :=
  let speed := link.speedMbps.getD manifest.speedMbps
  let duplex := link.duplex.getD .full
  if carriesLink ∧ link.forced ∧ !modeSupported manifest.supportedModes speed duplex then
    .error ⟨.invalidArgument, manifest.name ++ ": " ++ formatMode speed duplex ++
      " is not supported (this port does: " ++ ", ".intercalate manifest.supportedModes ++ ")"⟩
  else .ok ()

/-- The request folded into the link that the port has. -/
def wantedLink (port : PortState) (req : SetPortAttrsRequest) : Except Status LinkConfig := do
  let duplex ← (req.duplex.map wantedDuplex).getD (.ok port.link.duplex)
  checkMtu req.mtu
  checkMode port.manifest req.carriesLink (port.link.fold req duplex)
  return port.link.fold req duplex

def adminChange : Option Int32 → Except Status (Option Bool)
  | none => .ok none
  | some state =>
    if state = 1 then .ok (some true)
    else if state = 2 then .ok (some false)
    else .error ⟨.invalidArgument, "unspecified admin_state"⟩

/-- Auto-negotiation comes first, and speed and duplex are set only without it. -/
def PortHardware.drive (hw : PortHardware) (link : LinkConfig) : PortHardware :=
  let autoneg := link.autoneg.getD false
  { hw with
    autoneg
    speedMbps := if autoneg then hw.speedMbps else link.speedMbps.getD hw.speedMbps
    fullDuplex := if autoneg then hw.fullDuplex else (link.duplex.map (· == .full)).getD hw.fullDuplex }

def PortState.apply (port : PortState) (req : SetPortAttrsRequest) (up : Option Bool)
    (link : LinkConfig) : PortState :=
  let hw := if req.carriesLink then port.hardware.drive link else port.hardware
  { port with
    adminUp := up.getD port.adminUp
    link
    hardware := { hw with
      adminUp := up.getD hw.adminUp
      mtu := if req.mtu.isSome then link.mtu.getD portMtu else hw.mtu } }

def setPortAttrs (port : PortState) (req : SetPortAttrsRequest) : Except Status PortState := do
  let up ← adminChange req.adminState
  let link ← wantedLink port req
  return port.apply req up link

def setPortErrdisable (port : PortState) (reason : String) : PortState :=
  { port with
    adminUp := reason = ""
    errdisableReason := if reason = "" then none else some reason
    hardware := { port.hardware with adminUp := reason = "" } }

inductive Call where
  | attrs (req : SetPortAttrsRequest)
  | errdisable (reason : String)

def SetPortAttrsRequest.configures (req : SetPortAttrsRequest) (last : Bool) : Bool :=
  match adminChange req.adminState with
  | .ok up => up.getD last
  | .error _ => last

/-- A port, and the admin state that was configured last. -/
structure Managed where
  port : PortState
  configured : Bool := true

def Managed.next (managed : Managed) : Call → Managed
  | .attrs req =>
    match setPortAttrs managed.port req with
    | .ok port => ⟨port, req.configures managed.configured⟩
    | .error _ => managed
  | .errdisable reason => { managed with port := setPortErrdisable managed.port reason }

/-- A port from the start of the switch on, which brings it up. -/
def managed (manifest : PortDef) (hw : PortHardware) : Machine Managed Call Empty where
  init := { port := { manifest, hardware := { hw with adminUp := true } } }
  next := Managed.next
  emit _ _ := []

/-- The port is up if it is configured up and not disabled by an error. -/
def Managed.Composed (managed : Managed) : Prop :=
  managed.port.hardware.adminUp = (managed.configured && managed.port.errdisableReason.isNone)

/-- Neither writer undoes what the other one asked for. -/
def Managed.Minds (managed : Managed) : Call → Prop
  | .attrs req => ∀ port, setPortAttrs managed.port req = .ok port →
    adminChange req.adminState = .ok (some true) → managed.port.errdisableReason = none
  | .errdisable reason => reason = "" → managed.configured = true

/-- After a call for speed or duplex the record reports the auto-negotiation of the hardware,
and a port without it that is no longer pinned has the speed of the manifest. -/
def Managed.Reports (managed : Managed) : Call → Prop
  | .attrs req => ∀ port, setPortAttrs managed.port req = .ok port → req.carriesLink = true →
    port.hardware.autoneg = port.autoneg ∧
      (port.link.forced = false → port.manifest.autoneg = false →
        port.hardware.speedMbps = port.manifest.speedMbps)
  | .errdisable _ => True

/-- Only a port that neither negotiates nor has another speed is released. -/
def Managed.Holds (managed : Managed) : Call → Prop
  | .attrs req => ∀ up link, adminChange req.adminState = .ok up →
    wantedLink managed.port req = .ok link → req.carriesLink = true → link.forced = false →
    managed.port.manifest.autoneg = false ∧
      managed.port.hardware.speedMbps = managed.port.manifest.speedMbps
  | .errdisable _ => True

variable {port after : PortState} {req : SetPortAttrsRequest} {link : LinkConfig} {up : Option Bool}

theorem adminUp_apply : (port.apply req up link).hardware.adminUp = up.getD port.hardware.adminUp := by
  unfold PortState.apply
  cases req.carriesLink <;> rfl

theorem drive_apply (carries : req.carriesLink = true) :
    (port.apply req up link).hardware.autoneg = link.autoneg.getD false ∧
      (port.apply req up link).hardware.speedMbps = if link.autoneg.getD false then port.hardware.speedMbps
        else link.speedMbps.getD port.hardware.speedMbps := by
  unfold PortState.apply
  rw [carries]
  exact ⟨rfl, rfl⟩

theorem setPortAttrs_eq_ok : setPortAttrs port req = .ok after ↔ ∃ up link,
    adminChange req.adminState = .ok up ∧ wantedLink port req = .ok link ∧
      port.apply req up link = after := by
  simp [setPortAttrs, bind_eq_ok, pure, Except.pure]

theorem wantedLink_autoneg (wanted : wantedLink port req = .ok link) (carries : req.carriesLink = true) :
    link.autoneg = if link.forced then some false else none := by
  obtain ⟨duplex, -, wanted⟩ := bind_eq_ok.mp wanted
  obtain ⟨-, -, wanted⟩ := bind_eq_ok.mp wanted
  obtain ⟨-, -, folded⟩ := bind_eq_ok.mp wanted
  cases folded
  exact if_pos carries

theorem composed_next (managed : Managed) (call : Call) (composed : managed.Composed) :
    (managed.next call).Composed ↔ managed.Minds call := by
  cases call with
  | errdisable reason =>
    by_cases clears : reason = ""
    · exact eq_comm.trans (by simp [Managed.next, Managed.Minds, setPortErrdisable, clears])
    · simp [Managed.next, Managed.Composed, Managed.Minds, setPortErrdisable, clears]
  | attrs req =>
    unfold Managed.Minds
    cases done : setPortAttrs managed.port req with
    | error status => simpa [Managed.next, done] using composed
    | ok port =>
      obtain ⟨up, link, changes, -, rfl⟩ := setPortAttrs_eq_ok.mp done
      have reason : (managed.port.apply req up link).errdisableReason = managed.port.errdisableReason := rfl
      simp only [Managed.next, done, SetPortAttrsRequest.configures, changes, Managed.Composed,
        adminUp_apply, reason]
      obtain _ | _ | _ := up
      · simpa [Managed.Composed] using composed
      · simp
      · simp

theorem reports_iff_holds (managed : Managed) (call : Call) :
    managed.Reports call ↔ managed.Holds call := by
  cases call with
  | errdisable reason => exact Iff.rfl
  | attrs req =>
    have reported {up link} (wanted : wantedLink managed.port req = .ok link)
        (carries : req.carriesLink = true) :
        ((managed.port.apply req up link).hardware.autoneg = (managed.port.apply req up link).autoneg ∧
          (link.forced = false → managed.port.manifest.autoneg = false →
            (managed.port.apply req up link).hardware.speedMbps = managed.port.manifest.speedMbps)) ↔
        (link.forced = false → managed.port.manifest.autoneg = false ∧
          managed.port.hardware.speedMbps = managed.port.manifest.speedMbps) := by
      have autoneg := wantedLink_autoneg wanted carries
      rw [(drive_apply carries).1, (drive_apply carries).2]
      cases forced : link.forced with
      | true =>
        rw [forced] at autoneg
        simp [PortState.autoneg, PortState.apply, autoneg]
      | false =>
        rw [forced] at autoneg
        have free : link.speedMbps = none := by simp_all [LinkConfig.forced]
        simp [PortState.autoneg, PortState.apply, autoneg, free]
        exact .inl
    simp only [Managed.Reports, setPortAttrs_eq_ok]
    constructor
    · intro reports up link changes wanted carries
      exact (reported wanted carries).mp (reports _ ⟨up, link, changes, wanted, rfl⟩ carries)
    · rintro holds _ ⟨up, link, changes, wanted, rfl⟩ carries
      exact (reported wanted carries).mpr (holds up link changes wanted carries)

/-- The admin state composes throughout a run exactly if each writer minds the other one. -/
theorem composed_iff_minds (manifest : PortDef) (hw : PortHardware) (calls : List Call) :
    (managed manifest hw).Always Managed.Composed calls ↔
      (managed manifest hw).Throughout Managed.Minds calls :=
  always_iff_throughout (by rfl) (fun _ call => composed_next _ call) calls

def copper : Machine Managed Call Empty :=
  managed ⟨"Ethernet1", 1000, true, []⟩ { autoneg := true, speedMbps := 1000 }

/-- A port that is configured down comes up when an error is cleared, and a port with an error
comes up when it is configured up. -/
theorem writers_override :
    ¬ (copper.run [.attrs { adminState := some 2 }, .errdisable "bpduguard", .errdisable ""]).Composed ∧
      ¬ (copper.run [.errdisable "bpduguard", .attrs { adminState := some 1 }]).Composed := by
  unfold Managed.Composed
  decide +kernel

/-- The record is right throughout a run exactly if only ports that neither negotiate nor have
another speed are released. -/
theorem reports_iff_releases_plain (manifest : PortDef) (hw : PortHardware) (calls : List Call) :
    (managed manifest hw).Throughout Managed.Reports calls ↔
      (managed manifest hw).Throughout Managed.Holds calls := by
  unfold Throughout
  simp only [reports_iff_holds]

/-- A released port does not negotiate, and keeps the speed that it was pinned to. -/
theorem released_port_stays_pinned :
    ¬ copper.Throughout Managed.Reports [.attrs { speedMbps := some 100 }, .attrs { speedMbps := some 0 }] ∧
      ((managed ⟨"Ethernet1", 1000, false, []⟩ { autoneg := false, speedMbps := 1000 }).run
        [.attrs { speedMbps := some 100 }, .attrs { speedMbps := some 0 }]).port.hardware.speedMbps = 100 := by
  refine ⟨fun reports => ?_, by decide +kernel⟩
  have last := reports [.attrs { speedMbps := some 100 }] (.attrs { speedMbps := some 0 }) [] rfl _ rfl rfl
  revert last
  decide +kernel

end Hemlock.Ports
