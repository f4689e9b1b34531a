import Mathlib.Algebra.Group.Nat.Defs
import Mathlib.Tactic.Tauto
import TouchPanel.Contact.Calibration
import TouchPanel.Device.Survey

/-!
This module contains which devices are touch surfaces and what is known of one: it has a position
axis in either direction, of a length that the calibration of its samples can divide by
(`Survey.describes_capabilities`).
-/

namespace TouchPanel

open Kernel

def Protocol.axes : Protocol → UInt16 × UInt16 × UInt16
  | .slotted | .anonymous => (Axis.positionX, Axis.positionY, Axis.contactPressure)
  | .single => (Axis.x, Axis.y, Axis.pressure)

namespace Device

namespace Range

theorem span_pos_iff (range : Range) : 0 < range.span ↔ range.least < range.greatest := by
  unfold span
  rw [Int32.lt_iff_toInt_lt]
  omega

end Range

namespace Uses

theorem testBit_or (a b : Uses) (place : Nat) :
    (a ||| b).bits.toNat.testBit place =
      (a.bits.toNat.testBit place || b.bits.toNat.testBit place) := by
  change (a.bits ||| b.bits).toNat.testBit place = _
  rw [UInt8.toNat_or, Nat.testBit_or]

theorem testBit_when (uses : Uses) (condition : Bool) (place : Nat) :
    (uses.when condition).bits.toNat.testBit place =
      (condition && uses.bits.toNat.testBit place) := by
  unfold Uses.when
  cases condition with
  | false => exact Nat.zero_testBit place
  | true => rfl

theorem testBit_of_flag {uses : Uses} {flag : Nat} (h : uses.bits.toNat = 2 ^ flag) (place : Nat) :
    uses.bits.toNat.testBit place = true ↔ place = flag := by
  rw [h, Nat.testBit_two_pow, decide_eq_true_iff, eq_comm]

end Uses

namespace Survey

def HasLength (survey : Survey) (axis : UInt16) : Prop :=
  ∃ range, survey.range? axis = some range ∧ range.least < range.greatest

/--
The device reports absolute positions. If it has the axes of several contacts, these have to have a
length. If not, it has the axes of a single contact, and these have to.
-/
def IsSurface (survey : Survey) : Prop :=
  survey.types.has EventType.absolute = true ∧
    ((survey.hasAxis Axis.positionX = true ∧ survey.hasAxis Axis.positionY = true ∧
        survey.HasLength Axis.positionX ∧ survey.HasLength Axis.positionY) ∨
      (¬ (survey.hasAxis Axis.positionX = true ∧ survey.hasAxis Axis.positionY = true) ∧
        survey.hasAxis Axis.x = true ∧ survey.hasAxis Axis.y = true ∧
        survey.HasLength Axis.x ∧ survey.HasLength Axis.y))

/--
The device reports its contacts in a protocol. Axes of several contacts win over those of a single
one.
-/
def Speaks (survey : Survey) : Protocol → Prop
  | .slotted =>
    survey.hasAxis Axis.positionX = true ∧ survey.hasAxis Axis.positionY = true ∧
      survey.hasAxis Axis.slot = true
  | .anonymous =>
    survey.hasAxis Axis.positionX = true ∧ survey.hasAxis Axis.positionY = true ∧
      survey.hasAxis Axis.slot = false
  | .single =>
    ¬ (survey.hasAxis Axis.positionX = true ∧ survey.hasAxis Axis.positionY = true) ∧
      survey.hasAxis Axis.x = true ∧ survey.hasAxis Axis.y = true

structure Describes (survey : Survey) (capabilities : Capabilities) : Prop where
  title : capabilities.name = survey.name.getD "unknown"
  types : capabilities.types = survey.types
  speaks : survey.Speaks capabilities.protocol
  x : survey.range? capabilities.protocol.axes.1 = some capabilities.x
  y : survey.range? capabilities.protocol.axes.2.1 = some capabilities.y
  span_x : 0 < capabilities.x.span
  span_y : 0 < capabilities.y.span
  pressure : ∀ range, capabilities.pressure = some range ↔
    survey.hasAxis capabilities.protocol.axes.2.2 = true ∧
      survey.range? capabilities.protocol.axes.2.2 = some range ∧ range.least < range.greatest
  slotCount : capabilities.slotCount =
    match capabilities.protocol, survey.range? Axis.slot with
    | .single, _ => 1
    | .anonymous, _ | .slotted, none => 10
    | .slotted, some range => min (range.greatest.toInt.toNat + 1) 10
  uses : ∀ place, capabilities.uses.bits.toNat.testBit place = true ↔
    place = 0 ∨
    place = 1 ∧ survey.types.has EventType.relative = true ∧ survey.hasKey Button.left = true ∨
    place = 2 ∧ survey.hasKey Button.a = true ∧ survey.hasKey Button.enter = true ∨
    place = 3 ∧ capabilities.pressure ≠ none ∨
    place = 4 ∧ capabilities.protocol ≠ .single

variable {survey : Survey} {capabilities : Capabilities}

theorem usableRange_eq_ok_iff {axis : UInt16} {range : Range} :
    survey.usableRange axis = .ok range ↔
      survey.range? axis = some range ∧ range.least < range.greatest := by
  unfold usableRange
  cases survey.range? axis with
  | none => simp
  | some known =>
    dsimp only
    split
    . next hle =>
      simp only [reduceCtorEq, Option.some.injEq, false_iff, not_and]
      rintro rfl
      exact fun hlt => Int32.not_le.2 hlt hle
    . next hlt =>
      simp only [Except.ok.injEq, Option.some.injEq, iff_self_and]
      rintro rfl
      exact Int32.not_le.1 hlt

theorem hasLength_iff {axis : UInt16} :
    survey.HasLength axis ↔ ∃ range, survey.usableRange axis = .ok range := by
  unfold HasLength
  simp only [usableRange_eq_ok_iff]

theorem layout_eq_ok_iff {protocol : Protocol} {axes : UInt16 × UInt16 × UInt16} :
    survey.layout = .ok (protocol, axes) ↔ survey.Speaks protocol ∧ axes = protocol.axes := by
  unfold layout Speaks Protocol.axes
  cases survey.hasAxis Axis.positionX <;> cases survey.hasAxis Axis.positionY <;>
    cases survey.hasAxis Axis.slot <;> cases survey.hasAxis Axis.x <;>
      cases survey.hasAxis Axis.y <;> cases protocol <;> simp [eq_comm]

def pressure? (survey : Survey) (protocol : Protocol) : Option Range :=
  if survey.hasAxis protocol.axes.2.2 then (survey.usableRange protocol.axes.2.2).toOption else none

def surface (survey : Survey) (protocol : Protocol) (x y : Range) : Capabilities :=
  { name := survey.title
    types := survey.types
    uses := survey.uses protocol (survey.pressure? protocol).isSome
    protocol, x, y
    pressure := survey.pressure? protocol
    slotCount := survey.slotCount protocol }

theorem capabilities_eq_ok_iff :
    survey.capabilities = .ok capabilities ↔
      survey.types.has EventType.absolute = true ∧
      ∃ protocol x y, survey.Speaks protocol ∧ survey.usableRange protocol.axes.1 = .ok x ∧
        survey.usableRange protocol.axes.2.1 = .ok y ∧
        capabilities = survey.surface protocol x y := by
  unfold Survey.capabilities
  simp only [bind, Except.bind, pure, Except.pure, throw, throwThe, MonadExceptOf.throw]
  constructor
  . intro h
    split at h
    . contradiction
    . next habsolute =>
      split at h
      . contradiction
      . next layout hlayout =>
        obtain ⟨protocol, axes⟩ := layout
        obtain ⟨hspeaks, rfl⟩ := layout_eq_ok_iff.1 hlayout
        dsimp only at h
        split at h
        . contradiction
        . next x hx =>
          split at h
          . contradiction
          . next y hy =>
            obtain rfl := Except.ok.inj h
            exact ⟨by simpa using habsolute, protocol, x, y, hspeaks, hx, hy, rfl⟩
  . rintro ⟨habsolute, protocol, x, y, hspeaks, hx, hy, rfl⟩
    rw [habsolute, layout_eq_ok_iff.2 ⟨hspeaks, rfl⟩]
    dsimp only
    rw [hx, hy]
    rfl

theorem exists_capabilities_iff :
    (∃ capabilities, survey.capabilities = .ok capabilities) ↔ survey.IsSurface := by
  simp only [capabilities_eq_ok_iff]
  unfold IsSurface
  simp only [hasLength_iff]
  constructor
  . rintro ⟨-, habsolute, protocol, x, y, hspeaks, hx, hy, -⟩
    refine ⟨habsolute, ?_⟩
    cases protocol with
    | slotted | anonymous =>
      exact Or.inl ⟨hspeaks.1, hspeaks.2.1, ⟨x, hx⟩, ⟨y, hy⟩⟩
    | single =>
      exact Or.inr ⟨hspeaks.1, hspeaks.2.1, hspeaks.2.2, ⟨x, hx⟩, ⟨y, hy⟩⟩
  . rintro ⟨habsolute, ⟨hfirst, hsecond, ⟨x, hx⟩, ⟨y, hy⟩⟩ |
      ⟨hnot, hfirst, hsecond, ⟨x, hx⟩, ⟨y, hy⟩⟩⟩
    . cases hslot : survey.hasAxis Axis.slot with
      | true => exact ⟨_, habsolute, .slotted, x, y, ⟨hfirst, hsecond, hslot⟩, hx, hy, rfl⟩
      | false => exact ⟨_, habsolute, .anonymous, x, y, ⟨hfirst, hsecond, hslot⟩, hx, hy, rfl⟩
    . exact ⟨_, habsolute, .single, x, y, ⟨hnot, hfirst, hsecond⟩, hx, hy, rfl⟩

theorem pressure?_eq_some_iff {protocol : Protocol} {range : Range} :
    survey.pressure? protocol = some range ↔
      survey.hasAxis protocol.axes.2.2 = true ∧
        survey.range? protocol.axes.2.2 = some range ∧ range.least < range.greatest := by
  unfold pressure?
  rw [← usableRange_eq_ok_iff]
  cases survey.usableRange protocol.axes.2.2 <;> simp [Except.toOption]

theorem slotCount_eq (survey : Survey) (protocol : Protocol) :
    survey.slotCount protocol =
      match protocol, survey.range? Axis.slot with
      | .single, _ => 1
      | .anonymous, _ | .slotted, none => 10
      | .slotted, some range => min (range.greatest.toInt.toNat + 1) 10 := by
  unfold slotCount maxSlots
  cases protocol with
  | single | anonymous => rfl
  | slotted => cases survey.range? Axis.slot <;> rfl

theorem testBit_uses_iff (survey : Survey) (protocol : Protocol) (hasPressure : Bool)
    (place : Nat) :
    (survey.uses protocol hasPressure).bits.toNat.testBit place = true ↔
      place = 0 ∨
      place = 1 ∧ survey.types.has EventType.relative = true ∧ survey.hasKey Button.left = true ∨
      place = 2 ∧ survey.hasKey Button.a = true ∧ survey.hasKey Button.enter = true ∨
      place = 3 ∧ hasPressure = true ∨
      place = 4 ∧ protocol ≠ .single := by
  unfold uses
  simp only [Uses.testBit_or, Uses.testBit_when, Bool.or_eq_true, Bool.and_eq_true,
    Uses.testBit_of_flag (show Uses.touch.bits.toNat = 2 ^ 0 from rfl),
    Uses.testBit_of_flag (show Uses.mouse.bits.toNat = 2 ^ 1 from rfl),
    Uses.testBit_of_flag (show Uses.keyboard.bits.toNat = 2 ^ 2 from rfl),
    Uses.testBit_of_flag (show Uses.pressure.bits.toNat = 2 ^ 3 from rfl),
    Uses.testBit_of_flag (show Uses.multiTouch.bits.toNat = 2 ^ 4 from rfl)]
  unfold Protocol.isMultiTouch
  rw [bne_iff_ne]
  tauto

theorem has_multiTouch_uses (survey : Survey) (protocol : Protocol) (hasPressure : Bool) :
    (survey.uses protocol hasPressure).has .multiTouch = protocol.isMultiTouch := by
  unfold uses Uses.when
  generalize (survey.types.has _ && _) = hasMouse
  generalize (survey.hasKey _ && _) = hasKeyboard
  cases protocol <;> cases hasPressure <;> cases hasMouse <;> cases hasKeyboard <;> rfl

theorem isMultiTouch_of_capabilities (h : survey.capabilities = .ok capabilities) :
    capabilities.isMultiTouch = capabilities.protocol.isMultiTouch := by
  obtain ⟨-, protocol, x, y, -, -, -, rfl⟩ := capabilities_eq_ok_iff.1 h
  apply has_multiTouch_uses

theorem describes_surface {protocol : Protocol} {x y : Range} (hspeaks : survey.Speaks protocol)
    (hx : survey.usableRange protocol.axes.1 = .ok x)
    (hy : survey.usableRange protocol.axes.2.1 = .ok y) :
    survey.Describes (survey.surface protocol x y) := by
  rw [usableRange_eq_ok_iff] at hx hy
  constructor
  . rfl
  . rfl
  . exact hspeaks
  . exact hx.1
  . exact hy.1
  . exact x.span_pos_iff.2 hx.2
  . exact y.span_pos_iff.2 hy.2
  . exact fun _ => pressure?_eq_some_iff
  . exact survey.slotCount_eq protocol
  . intro place
    rw [← Option.isSome_iff_ne_none]
    exact survey.testBit_uses_iff protocol _ place

/--
A device is surveyed exactly if it is a touch surface, and then all that is known of it is as the
device says. The ranges by which its samples are calibrated have a length, and the slot of a contact
is its id exactly if the protocol tells contacts apart.
-/
theorem describes_capabilities (survey : Survey) :
    ((∃ capabilities, survey.capabilities = .ok capabilities) ↔ survey.IsSurface) ∧
      ∀ capabilities, survey.capabilities = .ok capabilities →
        survey.Describes capabilities ∧
        let calibration := Calibration.ofCapabilities capabilities
        (∀ range, range = calibration.x ∨ range = calibration.y ∨
          calibration.pressure = some range → 0 < range.span) ∧
        ∀ transition time, (calibration.sample transition time).id =
          if capabilities.protocol = .single then 0 else UInt32.ofNat transition.slot := by
  refine ⟨exists_capabilities_iff, fun capabilities h => ?_⟩
  obtain ⟨-, protocol, x, y, hspeaks, hx, hy, rfl⟩ := capabilities_eq_ok_iff.1 h
  have hdescribes := describes_surface hspeaks hx hy
  refine ⟨hdescribes, ?_, ?_⟩
  . rintro range (rfl | rfl | hpressure)
    . exact hdescribes.span_x
    . exact hdescribes.span_y
    . exact range.span_pos_iff.2 ((hdescribes.pressure range).1 hpressure).2.2
  . intro transition time
    change (if (survey.surface protocol x y).isMultiTouch then _ else _) = _
    rw [isMultiTouch_of_capabilities h]
    cases protocol <;> rfl

/--
A slotted panel with a keyboard, whose pressure axis has no length and whose axes for a single
contact have no ranges.
-/
theorem describes_capabilities_slotted :
    let survey : Survey :=
      { name := none
        types := ⟨11⟩
        axes := 0x460800000000003
        hasKey := fun key => key = Button.a ∨ key = Button.enter
        range? := fun axis =>
          if axis = Axis.positionX ∨ axis = Axis.positionY then some ⟨-5, 4090⟩
          else if axis = Axis.slot then some ⟨0, 3⟩
          else if axis = Axis.contactPressure then some ⟨255, 255⟩
          else none }
    survey.hasAxis Axis.x = true ∧ survey.hasAxis Axis.contactPressure = true ∧
      ∃ capabilities, survey.capabilities = .ok capabilities ∧ capabilities.protocol = .slotted ∧
        capabilities.slotCount = 4 ∧ capabilities.pressure = none ∧
        (∀ place, capabilities.uses.bits.toNat.testBit place = true ↔
          place = 0 ∨ place = 2 ∨ place = 4) ∧
        ∀ transition time, ((Calibration.ofCapabilities capabilities).sample transition time).id =
          UInt32.ofNat transition.slot := by
  intro survey
  have hspeaks : survey.Speaks .slotted := ⟨by decide, by decide, by decide⟩
  have hx : survey.usableRange Axis.positionX = .ok ⟨-5, 4090⟩ :=
    usableRange_eq_ok_iff.2 (by decide)
  have hy : survey.usableRange Axis.positionY = .ok ⟨-5, 4090⟩ :=
    usableRange_eq_ok_iff.2 (by decide)
  have hknown := capabilities_eq_ok_iff.2 ⟨by decide, .slotted, _, _, hspeaks, hx, hy, rfl⟩
  obtain ⟨hdescribes, -, hid⟩ := (describes_capabilities survey).2 _ hknown
  have hpressure : (survey.surface .slotted ⟨-5, 4090⟩ ⟨-5, 4090⟩).pressure = none := by decide
  refine ⟨by decide, by decide, _, hknown, rfl, by decide, hpressure, ?_, hid⟩
  intro place
  have hmouse : survey.types.has EventType.relative = false := by decide
  have hkeyboard : survey.hasKey Button.a = true ∧ survey.hasKey Button.enter = true := by decide
  rw [hdescribes.uses, hmouse, hpressure]
  simp [hkeyboard, surface]

end Survey

end Device

end TouchPanel
