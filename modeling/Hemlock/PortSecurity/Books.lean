import Hemlock.PortSecurity.Engine

/-!
# Which addresses count

The addresses that count on a secured port should be those that the mirror of the
forwarding table has on that port.  The engine follows the mirror by the reports alone: a
report names one port and no other VLANs.  So its books are right as long as an address
leaves a secured port only by a report that names this port and with its last VLAN.
-/

namespace Hemlock.PortSecurity

open Machine Mailbox OrderedMap SnoopSec

theorem hexDigit_reads : ∀ digit : Fin 16, hexDigit digit.val ≠ ':' ∧
    hexDigit digit.val ≠ '+' ∧ Net.toDigit 16 (hexDigit digit.val) = some digit.val := by
  decide

theorem parseUnsigned_hexByte (byte : UInt8) :
    Net.parseUnsigned 16 256 (hexByte byte) = some byte.toNat := by
  have bound := byte.toNat_lt
  obtain ⟨-, notPlus, high⟩ := hexDigit_reads ⟨byte.toNat / 16, by omega⟩
  obtain ⟨-, -, low⟩ := hexDigit_reads ⟨byte.toNat % 16, by omega⟩
  have value : byte.toNat / 16 * 16 + byte.toNat % 16 = byte.toNat := by omega
  simp [Net.parseUnsigned, hexByte, notPlus, high, low, value, bound]

theorem splitOn_macChars {bytes : List UInt8} (some : bytes ≠ []) :
    (macChars bytes).splitOn ':' = bytes.map hexByte := by
  have plain (byte : UInt8) : ':' ∉ hexByte byte := by
    have bound := byte.toNat_lt
    have high := (hexDigit_reads ⟨byte.toNat / 16, by omega⟩).1
    have low := (hexDigit_reads ⟨byte.toNat % 16, by omega⟩).1
    simp [hexByte, Ne.symm high, Ne.symm low]
  induction bytes with
  | nil => exact absurd rfl some
  | cons byte bytes ih =>
    cases bytes with
    | nil => exact List.splitOn_eq_singleton (plain byte)
    | cons next rest =>
      rw [macChars, List.splitOn_append_cons_self_of_not_mem (plain byte), ih (by simp)]
      rfl

theorem mapM_hexByte (bytes : List UInt8) :
    (bytes.map hexByte).mapM (Net.parseUnsigned 16 256) = some (bytes.map UInt8.toNat) := by
  induction bytes with
  | nil => rfl
  | cons byte bytes ih =>
    simp [parseUnsigned_hexByte, ih]

theorem macBytes_formatMac (mac : Mac) : macBytes (formatMac mac) = some (mac.toList.map UInt8.toNat) := by
  have some : mac.toList ≠ [] := by
    intro none
    have length := congrArg List.length none
    simp at length
  have parts : (formatMac mac).toList.splitOn ':' = mac.toList.map hexByte := by
    rw [formatMac, macText, String.toList_ofList, splitOn_macChars some]
  have length : (mac.toList.map hexByte).length = 6 := by simp
  rw [macBytes, parts, List.take_of_length_le (Nat.le_of_eq length), if_pos length, mapM_hexByte]

def OnPort (dynamics : FdbMap) (port mac : String) : Prop :=
  ∃ vlan : UInt16, ∃ entry, dynamics[(vlan, mac)]? = some entry ∧ entry.port = port

def Elsewhere (dynamics : FdbMap) (vlan : UInt16) (port mac : String) : Prop :=
  ∃ vlan' : UInt16, ∃ entry, vlan' ≠ vlan ∧ dynamics[(vlan', mac)]? = some entry ∧
    entry.port = port

section

variable {dynamics : FdbMap} {port mac : String} {vlan : UInt16} {note : FdbNotify} {now : Nat}

theorem onPort_iff (vlan : UInt16) : OnPort dynamics port mac ↔
    (∃ entry, dynamics[(vlan, mac)]? = some entry ∧ entry.port = port) ∨
      Elsewhere dynamics vlan port mac := by
  constructor
  · rintro ⟨vlan', entry, hf, hp⟩
    by_cases hs : vlan' = vlan
    · exact .inl ⟨entry, by rw [← hs, hf], hp⟩
    · exact .inr ⟨vlan', entry, hs, hf, hp⟩
  · rintro (⟨entry, hf, hp⟩ | ⟨vlan', entry, -, hf, hp⟩)
    · exact ⟨vlan, entry, hf, hp⟩
    · exact ⟨vlan', entry, hf, hp⟩

theorem onPort_erase (vlan : UInt16) (mac' : String) : OnPort (dynamics.erase (vlan, mac')) port mac ↔
      if mac = mac' then Elsewhere dynamics vlan port mac else OnPort dynamics port mac := by
  have lookup (vlan' : UInt16) : (dynamics.erase (vlan, mac'))[(vlan', mac)]? =
      if vlan = vlan' ∧ mac' = mac then none else dynamics[(vlan', mac)]? := by
    simp only [lookup_erase, Prod.mk.injEq]
  simp only [OnPort, lookup]
  split_ifs with hs
  · subst hs
    refine exists_congr fun vlan' => exists_congr fun entry => ?_
    by_cases isVlan : vlan = vlan'
    · simp [isVlan]
    · simp [isVlan, Ne.symm isVlan]
  · simp [Ne.symm hs]

theorem onPort_insert (vlan : UInt16) (mac' : String) (entry : FdbDynamicEntry) :
    OnPort (dynamics.insert (vlan, mac') entry) port mac ↔
      if mac = mac' then entry.port = port ∨ Elsewhere dynamics vlan port mac
      else OnPort dynamics port mac := by
  have lookup (vlan' : UInt16) : (dynamics.insert (vlan, mac') entry)[(vlan', mac)]? =
      if vlan = vlan' ∧ mac' = mac then some entry else dynamics[(vlan', mac)]? := by
    simp only [lookup_insert, Prod.mk.injEq]
  split_ifs with hs
  · subst hs
    rw [onPort_iff vlan, lookup, if_pos ⟨rfl, rfl⟩]
    refine or_congr ⟨?_, fun hp => ⟨entry, rfl, hp⟩⟩ ?_
    · rintro ⟨_, hf, hp⟩
      cases hf
      exact hp
    · refine exists_congr fun vlan' => exists_congr fun entry' => and_congr_right fun other => ?_
      rw [lookup, if_neg fun isKey => other isKey.1.symm]
  · simp only [OnPort, lookup]
    simp [Ne.symm hs]

theorem onPort_flush (port' : String) :
    OnPort (dynamics.filter fun _ entry => entry.port ≠ port') port mac ↔
      port ≠ port' ∧ OnPort dynamics port mac := by
  constructor
  · rintro ⟨vlan, entry, hf, hp⟩
    rw [getElem?_filter', Option.filter_eq_some_iff] at hf
    subst hp
    exact ⟨by simpa using hf.2, vlan, entry, hf.1, rfl⟩
  · rintro ⟨other, vlan, entry, hf, hp⟩
    refine ⟨vlan, entry, ?_, hp⟩
    rw [getElem?_filter', hf]
    simpa [hp] using other

theorem heard_port (previous : Option FdbDynamicEntry) :
    (FdbDynamicEntry.heard port now previous).port = port := by
  cases previous with
  | none => rfl
  | some entry =>
    rw [FdbDynamicEntry.heard]
    split_ifs with other
    · rfl
    · exact not_not.mp other

end

def FdbEventKind.present : FdbEventKind → Bool
  | .learned | .moved => true
  | .aged | .flushed => false

/-- What a report says about an address on a port. -/
def news (port mac : String) (note : FdbNotify) : Option Prop :=
  if note.port = some port ∧ note.mac = mac then some (note.kind.present = true) else none

/-- Once the engine has read what waits, the addresses that count are those of the mirror. -/
structure Books (w : World) : Prop where
  settles : ∀ (port : String) state, w.portSecurity[port]? = some state →
    ∀ mac, settled (news port mac) (mac ∈ state.learned) w.fdbEvents ↔ OnPort w.dynamics port mac
  formatted : ∀ note ∈ w.fdbEvents, ∃ mac, note.mac = formatMac mac

/-- The engine can follow the report: there is room for it, an entry leaves a secured port
only by a report that names the port or when the address stays there in another VLAN, and
an address that is gone from a secured port is gone in its last VLAN. -/
structure Follows (w : World) (note : FdbNotify) : Prop where
  room : w.fdbEvents.length < 1024
  leaves : (note.kind.present = true → note.port ≠ none) →
    ∀ entry : FdbDynamicEntry, w.dynamics[(note.vlan, note.mac)]? = some entry →
      entry.port ∈ w.portSecurity →
        note.port = some entry.port ∨ Elsewhere w.dynamics note.vlan entry.port note.mac
  last : note.kind.present = false → ∀ port, note.port = some port → port ∈ w.portSecurity →
    ¬ Elsewhere w.dynamics note.vlan port note.mac

/-- An address too many is dropped again. -/
structure Expels (board : Board) (backend : Backend) (w : World) (port : String)
    (state : PortSecurityState) (note : FdbNotify) (rest : List FdbNotify) : Prop where
  protects : state.shutdown = false
  known : port ∈ w.ports
  vlan : hasVlanRef board note.vlan = true
  removed : backend.removeFdbEntry = true
  silent : ∀ later ∈ rest, later.mac ≠ note.mac
  single : ¬ Elsewhere w.dynamics note.vlan port note.mac

/-- Starting over empties the port, and no report for it waits. -/
structure Resettable (board : Board) (backend : Backend) (w : World) (port : String) : Prop where
  silent : ∀ note ∈ w.fdbEvents, note.port ≠ some port
  flushed : (board.fdbFlush = true ∧ port ∈ w.ports ∧ backend.portLearning port = true) ∨
    ∀ mac, ¬ OnPort w.dynamics port mac

def Regular (board : Board) (w : World) (input : Timed Input) : Prop :=
  match input.event with
  | .fdb event => ∀ note ∈ notifyFor board w.ports event, Follows w note
  | .takeFdb backend => ∀ note rest port state, w.fdbEvents = note :: rest →
      note.kind.present = true → note.port = some port → w.portSecurity[port]? = some state →
        note.mac ∉ state.learned → ¬ UInt32.ofNat state.learned.size < state.max →
          Expels board backend w port state note rest
  | .setPortSecurity req _ =>
    req.port ∈ w.portSecurity ∨ ∀ note ∈ w.fdbEvents, note.port ≠ some req.port
  | .resetPortSecurity filter backend =>
    ∀ port ∈ selected filter w, Resettable board backend w port
  | .violation .. | .takeViolation _ | .clearPortSecurity .. => True

/-- Mirror and reports are the same, and no other addresses count. -/
structure Unaffected (before after : World) : Prop where
  dynamics : after.dynamics = before.dynamics
  fdbEvents : after.fdbEvents = before.fdbEvents
  learned : ∀ (port : String) state', after.portSecurity[port]? = some state' →
    ∃ state, before.portSecurity[port]? = some state ∧ state'.learned = state.learned
  ports : ∀ port ∈ before.ports, port ∈ after.ports

theorem Unaffected.refl (w : World) : Unaffected w w :=
  ⟨rfl, rfl, fun _ state hf => ⟨state, hf, rfl⟩, fun _ => id⟩

theorem Unaffected.trans {first second third : World} (early : Unaffected first second)
    (late : Unaffected second third) : Unaffected first third where
  dynamics := late.dynamics.trans early.dynamics
  fdbEvents := late.fdbEvents.trans early.fdbEvents
  learned port state'' hf := by
    obtain ⟨state', hf', hs'⟩ := late.learned port state'' hf
    obtain ⟨state, hf, hs⟩ := early.learned port state' hf'
    exact ⟨state, hf, hs'.trans hs⟩
  ports port known := late.ports port (early.ports port known)

theorem Books.unaffected {before after : World} (books : Books before)
    (unaffected : Unaffected before after) : Books after where
  settles port state' hf mac := by
    obtain ⟨state, hf, hs⟩ := unaffected.learned port state' hf
    rw [hs, unaffected.fdbEvents, unaffected.dynamics]
    exact books.settles port state hf mac
  formatted := by
    rw [unaffected.fdbEvents]
    exact books.formatted

section

variable {board : Board} {backend : Backend} {w : World} {port mac : String} {note : FdbNotify}
  {now : Nat} {rest : List FdbNotify}

theorem news_of_named (named : note.port = some port) (isMac : note.mac = mac) :
    news port mac note = some (note.kind.present = true) := if_pos ⟨named, isMac⟩

theorem news_of_unnamed (unnamed : note.port ≠ some port) : news port mac note = none :=
  if_neg fun isNews => unnamed isNews.1

theorem news_of_other (other : note.mac ≠ mac) : news port mac note = none :=
  if_neg fun isNews => other isNews.2

theorem onPort_mirror_of_other (other : note.mac ≠ mac) (dynamics : FdbMap) :
    OnPort (mirror dynamics note now) port mac ↔ OnPort dynamics port mac := by
  unfold mirror
  cases note.kind <;> dsimp only
  case aged | flushed => rw [onPort_erase, if_neg other.symm]
  all_goals
    cases note.port with
    | none => rfl
    | some heard => rw [onPort_insert, if_neg other.symm]

theorem onPort_mirror_of_absent (ha : note.kind.present = false) (dynamics : FdbMap) :
    OnPort (mirror dynamics note now) port note.mac ↔ Elsewhere dynamics note.vlan port note.mac := by
  unfold mirror
  cases isKind : note.kind <;> rw [isKind] at ha
  case learned | moved => cases ha
  all_goals
    rw [onPort_erase, if_pos rfl]

theorem onPort_mirror_of_present (hp : note.kind.present = true) {heard : String}
    (named : note.port = some heard) (dynamics : FdbMap) :
    OnPort (mirror dynamics note now) port note.mac ↔
      heard = port ∨ Elsewhere dynamics note.vlan port note.mac := by
  unfold mirror
  cases isKind : note.kind <;> rw [isKind] at hp
  case aged | flushed => cases hp
  all_goals
    rw [named]
    rw [onPort_insert, if_pos rfl, heard_port]

theorem mirror_of_unnamed (hp : note.kind.present = true) (unnamed : note.port = none)
    (dynamics : FdbMap) : mirror dynamics note now = dynamics := by
  unfold mirror
  cases isKind : note.kind <;> rw [isKind] at hp
  case aged | flushed => cases hp
  all_goals rw [unnamed]

theorem Follows.onPort_mirror (follows : Follows w note) (secured : port ∈ w.portSecurity)
    (mac : String) : OnPort (mirror w.dynamics note now) port mac ↔
      (news port mac note).getD (OnPort w.dynamics port mac) := by
  by_cases other : note.mac ≠ mac
  · rw [news_of_other other, Option.getD_none, onPort_mirror_of_other other]
  · obtain rfl := not_not.mp other
    -- An entry on this port that goes has another entry on it beside, unless the port is named.
    have stays (goes : note.kind.present = true → note.port ≠ none) (unnamed : note.port ≠ some port) :
        Elsewhere w.dynamics note.vlan port note.mac ↔ OnPort w.dynamics port note.mac := by
      rw [onPort_iff note.vlan]
      refine ⟨.inr, ?_⟩
      rintro (⟨entry, hf, isPort⟩ | beside)
      · rw [← isPort] at secured unnamed ⊢
        exact (follows.leaves goes entry hf secured).resolve_left unnamed
      · exact beside
    cases hp : note.kind.present with
    | false =>
      rw [onPort_mirror_of_absent hp]
      by_cases named : note.port = some port
      · rw [news_of_named named rfl, hp]
        exact iff_of_false (follows.last hp port named secured) (by simp)
      · rw [news_of_unnamed named]
        exact stays (by simp [hp]) named
    | true =>
      cases named : note.port with
      | none =>
        rw [mirror_of_unnamed hp named, news_of_unnamed (by simp [named]), Option.getD_none]
      | some heard =>
        rw [onPort_mirror_of_present hp named]
        by_cases isPort : heard = port
        · rw [news_of_named (by rw [named, isPort]) rfl, hp]
          exact iff_of_true (.inl isPort) rfl
        · rw [news_of_unnamed (by simpa [named] using isPort), or_iff_right isPort]
          exact stays (by simp [named]) (by simpa [named] using isPort)

theorem Books.pumpFdb (books : Books w) {event : FdbEvent}
    (follows : ∀ note ∈ notifyFor board w.ports event, Follows w note) :
    Books (pumpFdb board event now w) := by
  unfold PortSecurity.pumpFdb
  cases reported : notifyFor board w.ports event with
  | none => exact books
  | some note =>
    have follows := follows note reported
    dsimp only
    rw [post_of_room follows.room]
    refine ⟨fun port state hf mac => ?_, fun note' hm => ?_⟩
    · have secured : port ∈ w.portSecurity := mem_of_lookup hf
      rw [settled_concat, follows.onPort_mirror secured]
      cases news port mac note with
      | none => exact books.settles port state hf mac
      | some told => rfl
    · rcases List.mem_append.mp hm with old | new
      · exact books.formatted note' old
      · obtain ⟨vlan, -, rfl⟩ := Option.map_eq_some_iff.mp reported
        rw [List.mem_singleton.mp new]
        exact ⟨event.mac, rfl⟩

variable {state : PortSecurityState}

theorem Unaffected.of_learned (hf : w.portSecurity[port]? = some state)
    {state' : PortSecurityState} (hs : state'.learned = state.learned) :
    Unaffected w { w with portSecurity := w.portSecurity.insert port state' } where
  dynamics := rfl
  fdbEvents := rfl
  learned port' state'' hf' := by
    rw [lookup_insert] at hf'
    split_ifs at hf' with hp
    · cases hf'
      exact ⟨state, by rw [← hp, hf], hs⟩
    · exact ⟨state'', hf', rfl⟩
  ports _ := id

theorem applyViolation_unaffected : Unaffected w (applyViolation board backend port none mac now w) := by
  unfold applyViolation
  cases hf : w.portSecurity[port]? with
  | none => exact .refl w
  | some state =>
    have counted : Unaffected w { w with
        portSecurity := w.portSecurity.insert port
          { state with violations := state.violations + 1, lastViolation := some (mac, now) } } :=
      .of_learned hf rfl
    cases w.ports[port]? with
    | none => exact counted
    | some hk =>
      dsimp only
      split_ifs
      · exact ⟨rfl, rfl, counted.learned, fun port' hk' =>
          member_insert.mpr (.inr hk')⟩
      all_goals exact counted

theorem applyViolation_expels {vlan : UInt16} (hf : w.portSecurity[port]? = some state)
    (protects : state.shutdown = false) (hk : port ∈ w.ports)
    (bytes : (macBytes mac).isSome = true) (reference : hasVlanRef board vlan = true)
    (removed : backend.removeFdbEntry = true) :
    Unaffected { w with dynamics := w.dynamics.erase (vlan, mac) }
      (applyViolation board backend port (some vlan) mac now w) := by
  obtain ⟨portState, hp⟩ :=
    exists_of_mem hk
  have unlearns (w : World) : unlearn board backend vlan mac w =
      { w with dynamics := w.dynamics.erase (vlan, mac) } := by
    rw [unlearn, bytes, reference, removed]
    rfl
  rw [applyViolation, hf]
  rw [hp]
  dsimp only
  rw [protects, unlearns]
  exact @Unaffected.of_learned { w with dynamics := w.dynamics.erase (vlan, mac) } port state hf _ rfl

theorem Books.read (books : Books w) (waits : w.fdbEvents = note :: rest) {after : World}
    (dynamics : after.dynamics = w.dynamics) (fdbEvents : after.fdbEvents = rest)
    (learned : ∀ (port : String) state', after.portSecurity[port]? = some state' →
      ∃ state, w.portSecurity[port]? = some state ∧
        ∀ mac, mac ∈ state'.learned ↔ (news port mac note).getD (mac ∈ state.learned)) : Books after where
  settles port state' found' mac := by
    obtain ⟨state, hf, told⟩ := learned port state' found'
    rw [dynamics, fdbEvents, propext (told mac), ← settled_cons, ← waits]
    exact books.settles port state hf mac
  formatted note' member := by
    rw [fdbEvents] at member
    exact books.formatted note' (by rw [waits]; exact List.mem_cons_of_mem _ member)

theorem Books.read_setLearned (books : Books w) (waits : w.fdbEvents = note :: rest)
    (named : note.port = some port) (hf : w.portSecurity[port]? = some state) {learned : NameMap Nat}
    (told : ∀ mac, mac ∈ learned ↔
      if note.mac = mac then note.kind.present = true else mac ∈ state.learned) :
    Books (setLearned port state learned { w with fdbEvents := rest }) := by
  refine books.read waits rfl rfl fun port' state' hf' => ?_
  rw [setLearned, lookup_insert] at hf'
  split_ifs at hf' with hp
  · subst hp
    cases hf'
    refine ⟨state, hf, fun mac => (told mac).trans ?_⟩
    split_ifs with isMac
    · rw [news_of_named named isMac, Option.getD_some]
    · rw [news_of_other isMac, Option.getD_none]
  · refine ⟨state', hf', fun mac => ?_⟩
    rw [news_of_unnamed (by simpa [named] using hp), Option.getD_none]

theorem Books.expelled (books : Books w) (waits : w.fdbEvents = note :: rest)
    (hp : note.kind.present = true) (named : note.port = some port)
    (hf : w.portSecurity[port]? = some state) (hu : note.mac ∉ state.learned)
    (silent : ∀ later ∈ rest, later.mac ≠ note.mac)
    (single : ¬ Elsewhere w.dynamics note.vlan port note.mac) :
    Books { w with
      fdbEvents := rest
      dynamics := w.dynamics.erase (note.vlan, note.mac) } where
  settles port' state' found' mac := by
    have settles := books.settles port' state' found' mac
    rw [waits, settled_cons] at settles
    rw [onPort_erase]
    split_ifs with isMac
    · subst isMac
      have quiet (port : String) : ∀ later ∈ rest, news port note.mac later = none :=
        fun later hm => news_of_other (silent later hm)
      rw [settled_of_silent (quiet port')] at settles ⊢
      by_cases isPort : port = port'
      · subst isPort
        cases hf.symm.trans found'
        exact iff_of_false hu single
      · rw [news_of_unnamed (by simpa [named] using isPort), Option.getD_none] at settles
        rw [settles, onPort_iff note.vlan]
        refine or_iff_right ?_
        -- The entry of this VLAN is on the port that is too full.
        rintro ⟨entry, entered, onOther⟩
        have full := books.settles port state hf note.mac
        rw [waits, settled_cons, news_of_named named rfl,
          settled_of_silent (quiet port), onPort_iff note.vlan] at full
        obtain ⟨entry', entered', onPort⟩ := (full.mp hp).resolve_right single
        cases entered.symm.trans entered'
        exact isPort (onPort.symm.trans onOther)
    · rw [news_of_other (Ne.symm isMac)] at settles
      exact settles
  formatted note' hm := books.formatted note' (by rw [waits]; exact List.mem_cons_of_mem _ hm)

theorem readFdb_of_present (hp : note.kind.present = true) (named : note.port = some port) :
    readFdb board backend note now w = heard board backend port note now w := by
  rw [readFdb, named]
  cases isKind : note.kind <;> rw [isKind] at hp
  case aged | flushed => cases hp

theorem readFdb_of_absent (ha : note.kind.present = false) (named : note.port = some port) :
    readFdb board backend note now w = gone port note w := by
  rw [readFdb, named]
  cases isKind : note.kind <;> rw [isKind] at ha
  case learned | moved => cases ha

theorem Books.gone (books : Books w) (waits : w.fdbEvents = note :: rest)
    (ha : note.kind.present = false) (named : note.port = some port)
    (hf : w.portSecurity[port]? = some state) : Books (gone port note { w with fdbEvents := rest }) := by
  rw [PortSecurity.gone, hf]
  refine books.read_setLearned waits named hf fun mac => ?_
  rw [ha]
  by_cases isMac : note.mac = mac <;> simp

theorem Books.heard (books : Books w) (waits : w.fdbEvents = note :: rest)
    (hp : note.kind.present = true) (named : note.port = some port)
    (hf : w.portSecurity[port]? = some state)
    (expels : note.mac ∉ state.learned → ¬ UInt32.ofNat state.learned.size < state.max →
      Expels board backend w port state note rest) :
    Books (heard board backend port note now { w with fdbEvents := rest }) := by
  rw [PortSecurity.heard, hf]
  dsimp only
  split_ifs with hk room
  · -- The address counts already.
    refine books.read waits rfl rfl fun port' state' hf' => ⟨state', hf', fun mac => ?_⟩
    by_cases isNews : note.port = some port' ∧ note.mac = mac
    · obtain ⟨isPort, rfl⟩ := isNews
      rw [named, Option.some.injEq] at isPort
      rw [← isPort] at hf' ⊢
      cases hf.symm.trans hf'
      rw [news_of_named named rfl]
      exact iff_of_true (contains_iff_mem.mp hk) hp
    · rw [news, if_neg isNews, Option.getD_none]
  · refine books.read_setLearned waits named hf fun mac => ?_
    rw [hp]
    by_cases isMac : note.mac = mac <;> simp [isMac]
  · rw [contains_iff_mem] at hk
    have expels := expels hk room
    obtain ⟨mac, isMac⟩ := books.formatted note (by rw [waits]; exact List.mem_cons_self ..)
    have bytes : (macBytes note.mac).isSome = true := by
      rw [isMac, macBytes_formatMac]
      rfl
    exact (books.expelled waits hp named hf hk expels.silent expels.single).unaffected
      (@applyViolation_expels board backend { w with fdbEvents := rest } _ _ now _ _ hf
        expels.protects expels.known bytes expels.vlan expels.removed)

theorem Books.ignored (books : Books w) (waits : w.fdbEvents = note :: rest)
    (unsecured : ∀ port ∈ w.portSecurity, note.port ≠ some port) : Books { w with fdbEvents := rest } := by
  refine books.read waits rfl rfl fun port state hf => ⟨state, hf, fun mac => ?_⟩
  rw [news_of_unnamed (unsecured port (mem_of_lookup hf)), Option.getD_none]

theorem Books.takeFdb (books : Books w) (regular : Regular board w ⟨now, .takeFdb backend⟩) :
    Books (takeFdb board backend now w) := by
  unfold PortSecurity.takeFdb
  cases waits : w.fdbEvents with
  | nil => exact books
  | cons note rest =>
    dsimp only
    cases named : note.port with
    | none =>
      rw [readFdb, named]
      exact books.ignored waits (by simp [named])
    | some port =>
      cases hf : w.portSecurity[port]? with
      | none =>
        have unsecured : Books { w with fdbEvents := rest } := by
          refine books.ignored waits fun port' secured isPort => ?_
          rw [named, Option.some.injEq] at isPort
          rw [mem_iff_isSome_getElem?, ← isPort, hf] at secured
          cases secured
        cases hp : note.kind.present with
        | true => rwa [readFdb_of_present hp named, PortSecurity.heard, hf]
        | false => rwa [readFdb_of_absent hp named, PortSecurity.gone, hf]
      | some state =>
        cases hp : note.kind.present with
        | true =>
          rw [readFdb_of_present hp named]
          exact books.heard waits hp named hf (regular note rest port state waits hp named hf)
        | false =>
          rw [readFdb_of_absent hp named]
          exact books.gone waits hp named hf

end

end Hemlock.PortSecurity
