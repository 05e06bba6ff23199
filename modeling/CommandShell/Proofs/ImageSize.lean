import CommandShell.Builtin.Util
import CommandShell.Proofs.Builtins
import CommandShell.Proofs.Session.Execution

/-!
# The size of an image

The sides of an image are positive 32-bit numbers, and it has at most 2^24 pixels.  The command
that creates images compares exact numbers.  A machine computes the same in words: it cuts a side
to 32 bits, multiplies in 64 bits, and counts the bytes in words of its own, and nothing is lost
on the way.
-/

namespace CommandShell
namespace Builtin

open CommandShell.Session (checkRules_eq_ok_iff runHandler_ask)

/-- A number that can be a side of an image. -/
def IsSide (number : Int64) : Prop := 1 ≤ number.toInt ∧ number.toInt ≤ 2 ^ 32 - 1

instance : DecidablePred IsSide := fun number =>
  inferInstanceAs (Decidable (1 ≤ number.toInt ∧ number.toInt ≤ 2 ^ 32 - 1))

/-- The size of an image that can be created. -/
def Drawable (w h : Int64) : Prop :=
  IsSide w ∧ IsSide h ∧ w.toInt * h.toInt ≤ 2 ^ 24

instance (w h : Int64) : Decidable (Drawable w h) :=
  inferInstanceAs (Decidable (IsSide w ∧ IsSide h ∧ w.toInt * h.toInt ≤ 2 ^ 24))

/-- Why an image of another size is refused; the width comes first. -/
def refusal (w h : Int64) : String :=
  if ¬ IsSide w then s!"w must be a positive size, got {w.toInt}"
  else if ¬ IsSide h then s!"h must be a positive size, got {h.toInt}"
  else s!"image {w.toInt}x{h.toInt} exceeds 16777216 pixels"

section Words

/-- A side in 32 bits: the number is compared in 64 bits, and then the upper ones are cut off. -/
def sideWord? (number : Int64) : Option UInt32 :=
  if 0 < number ∧ number ≤ 0xFFFFFFFF then some number.toUInt64.toUInt32 else none

def pixelWord (width height : UInt32) : UInt64 := width.toUInt64 * height.toUInt64

/-- The number of bytes in a word of the machine, which has 32 bits or 64. -/
def byteWord (pixels : UInt64) : USize := pixels.toUSize * 4

/-- The sides and the number of bytes of an image, as a machine computes them. -/
def measure? (w h : Int64) : Option (UInt32 × UInt32 × USize) := do
  let width ← sideWord? w
  let height ← sideWord? h
  let pixels := pixelWord width height
  if pixels ≤ 0x1000000 then some (width, height, byteWord pixels) else none

theorem toNat_pixelWord (width height : UInt32) :
    (pixelWord width height).toNat = width.toNat * height.toNat := by
  have product : width.toNat * height.toNat < 2 ^ 64 := by
    calc width.toNat * height.toNat < 2 ^ 32 * 2 ^ 32 :=
          Nat.mul_lt_mul'' width.toNat_lt height.toNat_lt
      _ = 2 ^ 64 := by rfl
  rw [pixelWord, UInt64.toNat_mul, UInt32.toNat_toUInt64, UInt32.toNat_toUInt64,
    Nat.mod_eq_of_lt product]

theorem toNat_byteWord {pixels : UInt64} (small : pixels ≤ 0x1000000) :
    (byteWord pixels).toNat = 4 * pixels.toNat := by
  have bound : pixels.toNat ≤ 0x1000000 := UInt64.le_iff_toNat_le.1 small
  have wordSize := USize.le_size
  have pixelsFit : pixels.toNat < USize.size := by omega
  have bytesFit : pixels.toNat * 4 < USize.size := by omega
  have four : (4 : USize).toNat = 4 := USize.toNat_ofNat_of_lt_32 (by decide)
  rw [byteWord, USize.toNat_mul, UInt64.toNat_toUSize, Nat.mod_eq_of_lt pixelsFit, four,
    Nat.mod_eq_of_lt bytesFit, Nat.mul_comm]

theorem sideWord?_eq_some_iff {number : Int64} {side : UInt32} :
    sideWord? number = some side ↔ IsSide number ∧ (side.toNat : Int) = number.toInt := by
  have positive : 0 < number ↔ 1 ≤ number.toInt := Int64.lt_iff_toInt_lt
  have bounded : number ≤ 0xFFFFFFFF ↔ number.toInt ≤ 2 ^ 32 - 1 := Int64.le_iff_toInt_le
  have isSide : (0 < number ∧ number ≤ 0xFFFFFFFF) ↔ IsSide number := and_congr positive bounded
  simp only [sideWord?, isSide]
  by_cases fits : IsSide number
  · have wide : number.toUInt64.toNat = number.toInt.toNat :=
      Int64.toNat_toUInt64_of_le (Int64.le_iff_toInt_le.2 (by simpa using by have := fits.1; omega))
    have exact : (number.toUInt64.toUInt32.toNat : Int) = number.toInt := by
      have := fits.1
      have := fits.2
      rw [UInt64.toNat_toUInt32, wide]
      omega
    rw [if_pos fits, Option.some.injEq, ← UInt32.toNat_inj]
    simp only [fits, true_and]
    omega
  · simp [fits]

theorem measure?_eq_some {w h : Int64} {width height : UInt32} {bytes : USize} :
    measure? w h = some (width, height, bytes) ↔
      sideWord? w = some width ∧ sideWord? h = some height ∧
        pixelWord width height ≤ 0x1000000 ∧ byteWord (pixelWord width height) = bytes := by
  simp only [measure?, Option.bind_eq_bind, Option.bind_eq_some_iff]
  grind

/-- The words of a machine measure the images that can be drawn, and no others, and hold the exact
sizes. -/
theorem measure?_eq_some_iff {w h : Int64} {width height : UInt32} {bytes : USize} :
    measure? w h = some (width, height, bytes) ↔
      Drawable w h ∧ (width.toNat : Int) = w.toInt ∧ (height.toNat : Int) = h.toInt ∧
        bytes.toNat = 4 * (width.toNat * height.toNat) := by
  have fewPixels : pixelWord width height ≤ 0x1000000 ↔ width.toNat * height.toNat ≤ 2 ^ 24 := by
    rw [← toNat_pixelWord]
    exact UInt64.le_iff_toNat_le
  have bytesEq (few : pixelWord width height ≤ 0x1000000) :
      byteWord (pixelWord width height) = bytes ↔
        bytes.toNat = 4 * (width.toNat * height.toNat) := by
    rw [← USize.toNat_inj, toNat_byteWord few, toNat_pixelWord, eq_comm]
  have product (widthEq : (width.toNat : Int) = w.toInt)
      (heightEq : (height.toNat : Int) = h.toInt) :
      width.toNat * height.toNat ≤ 2 ^ 24 ↔ w.toInt * h.toInt ≤ 2 ^ 24 := by
    rw [← widthEq, ← heightEq]
    norm_cast
  rw [measure?_eq_some, sideWord?_eq_some_iff, sideWord?_eq_some_iff, Drawable]
  constructor
  · rintro ⟨⟨wideEnough, widthEq⟩, ⟨highEnough, heightEq⟩, few, rfl⟩
    have small := (product widthEq heightEq).1 (fewPixels.1 few)
    exact ⟨⟨wideEnough, highEnough, small⟩, widthEq, heightEq, (bytesEq few).1 rfl⟩
  · rintro ⟨⟨wideEnough, highEnough, small⟩, widthEq, heightEq, counted⟩
    have few := fewPixels.2 ((product widthEq heightEq).2 small)
    exact ⟨⟨wideEnough, widthEq⟩, ⟨highEnough, heightEq⟩, few, (bytesEq few).2 counted⟩

end Words

section Drawing

variable {bundle : Bundle} {name : String} {number w h : Int64}

theorem imageSide_of_get? (found : bundle.get? name = some (.integer number)) :
    imageSide bundle name =
      if IsSide number then .ok number.toInt.toNat
      else .error (.badUsage s!"{name} must be a positive size, got {number.toInt}") := by
  have integer : bundle.integer name = .ok number := by
    rw [Bundle.integer, Bundle.argument, found]
    rfl
  have isSide : (0 < number.toInt ∧ number.toInt < 0x100000000) ↔ IsSide number := by
    rw [IsSide]
    omega
  rw [imageSide, integer, ← ite_congr (propext isSide) (fun _ => rfl) (fun _ => rfl)]
  rfl

/-- What the command makes of two sides: an image with a handle of its own, or a refusal. -/
def draw (session : Session) (w h : Int64) : Session.Outcome Value :=
  if Drawable w h then
    let image : Image := ⟨session.images, w.toInt.toNat, h.toInt.toNat, 0⟩
    ({ session with images := session.images + 1 }, .ok (.image image))
  else (session, .error (.error (.badUsage (refusal w h))))

theorem IsSide.natCast_toNat (side : IsSide number) :
    (number.toInt.toNat : Int) = number.toInt := by
  have := side.1
  omega

theorem toString_exceeds (width : IsSide w) (height : IsSide h) :
    s!"image {w.toInt.toNat}x{h.toInt.toNat} exceeds {Image.maxPixels} pixels" =
      s!"image {w.toInt}x{h.toInt} exceeds 16777216 pixels" := by
  have same {number : Int64} (side : IsSide number) :
      toString number.toInt.toNat = toString number.toInt := by
    conv_rhs => rw [← side.natCast_toNat]
    rfl
  have limit : toString Image.maxPixels = "16777216" := by decide +kernel
  rw [same width, same height, limit]
  simp only [String.append_assoc]
  rfl

theorem toNat_mul_toNat_le_iff (width : IsSide w) (height : IsSide h) :
    w.toInt.toNat * h.toInt.toNat ≤ Image.maxPixels ↔ w.toInt * h.toInt ≤ 2 ^ 24 := by
  rw [← width.natCast_toNat, ← height.natCast_toNat, Int.toNat_natCast, Int.toNat_natCast]
  rw [Image.maxPixels]
  norm_cast

theorem blankImage_eq (session : Session) (width : IsSide w) (height : IsSide h) :
    session.blankImage w.toInt.toNat h.toInt.toNat =
      if w.toInt * h.toInt ≤ 2 ^ 24 then
        .ok (⟨session.images, w.toInt.toNat, h.toInt.toNat, 0⟩,
          { session with images := session.images + 1 })
      else .error (.badUsage s!"image {w.toInt}x{h.toInt} exceeds 16777216 pixels") := by
  have fewPixels := toNat_mul_toNat_le_iff width height
  rw [Session.blankImage, Image.blank, toString_exceeds width height]
  by_cases small : w.toInt * h.toInt ≤ 2 ^ 24
  · rw [if_pos (fewPixels.2 small), if_pos small]
    rfl
  · rw [if_neg (mt fewPixels.1 small), if_neg small]
    rfl

variable (evaluate : String → Session → Task Session.signals (Session.Outcome (Option Value)))
variable (session : Session) (info : ModuleInfo)

theorem runHandler_blankImage (width height : Nat) :
    Session.runHandler evaluate session
        (do return .image (← Handler.blankImage width height) : Handler Value) =
      .done (match session.blankImage width height with
        | .ok (image, changed) => (changed, .ok (.image image))
        | .error error => (session, .error (.error error))) := by
  cases blank : session.blankImage width height with
  | ok created =>
      have replied : Session.reply evaluate session (.blankImage width height) =
          .done (created.2, .ok (.ok created.1)) := by
        rw [Session.reply, blank]
        rfl
      exact runHandler_ask replied
  | error error =>
      have replied : Session.reply evaluate session (.blankImage width height) =
          .done (session, .ok (.error error)) := by
        rw [Session.reply, blank]
        rfl
      exact runHandler_ask replied

theorem runHandler_imageCommand (width : bundle.get? "w" = some (.integer w))
    (height : bundle.get? "h" = some (.integer h)) :
    Session.runHandler evaluate session (imageCommand.handler info bundle) =
      .done (draw session w h) := by
  unfold imageCommand
  dsimp only
  rw [imageSide_of_get? width, imageSide_of_get? height]
  by_cases wide : IsSide w
  · by_cases high : IsSide h
    · simp only [wide, high, if_true]
      refine (runHandler_blankImage evaluate session w.toInt.toNat h.toInt.toNat).trans ?_
      rw [blankImage_eq session wide high, draw, refusal]
      by_cases small : w.toInt * h.toInt ≤ 2 ^ 24
      · have drawable : Drawable w h := ⟨wide, high, small⟩
        rw [if_pos small, if_pos drawable]
      · have undrawable : ¬ Drawable w h := fun drawable => small drawable.2.2
        rw [if_neg small, if_neg undrawable, if_neg (not_not.2 wide), if_neg (not_not.2 high)]
    · have undrawable : ¬ Drawable w h := fun drawable => high drawable.2.1
      rw [draw, if_neg undrawable, refusal]
      simp only [wide, high, if_true, if_false, not_true, not_false_eq_true]
      rfl
  · have undrawable : ¬ Drawable w h := fun drawable => wide drawable.1
    rw [draw, if_neg undrawable, refusal]
    simp only [wide, if_true, if_false, not_false_eq_true]
    rfl

end Drawing

/-- What comes of the sides `w` and `h`: an image of exactly that size if it can be drawn, and
otherwise the reason why not. -/
structure DrawsExactly (session : Session) (w h : Int64) (outcome : Session.Outcome Value) :
    Prop where
  yields_iff : (∃ image, outcome.2 = .ok (.image image)) ↔ Drawable w h
  size : ∀ value, outcome.2 = .ok value → ∃ image, value = .image image ∧
    (image.width : Int) = w.toInt ∧ (image.height : Int) = h.toInt ∧
      image.bytes = List.replicate (4 * (image.width * image.height)) 0
  refuses : ¬ Drawable w h → outcome = (session, .error (.error (.badUsage (refusal w h))))
  /-- The words of a machine come to the same. -/
  measured : ∀ width height bytes, measure? w h = some (width, height, bytes) ↔
    ∃ image, outcome.2 = .ok (.image image) ∧ width.toNat = image.width ∧
      height.toNat = image.height ∧ bytes.toNat = image.bytes.length

theorem length_bytes (image : Image) :
    image.bytes.length = 4 * (image.width * image.height) := by
  rw [Image.bytes, List.length_replicate, Image.byteCount, Nat.mul_comm]

theorem drawsExactly_draw (session : Session) (w h : Int64) :
    DrawsExactly session w h (draw session w h) := by
  by_cases drawable : Drawable w h
  · have widthEq := drawable.1.natCast_toNat
    have heightEq := drawable.2.1.natCast_toNat
    rw [draw, if_pos drawable]
    constructor
    · exact iff_of_true ⟨_, rfl⟩ drawable
    · rintro _ ⟨⟩
      refine ⟨_, rfl, widthEq, heightEq, ?_⟩
      rw [Image.bytes, Image.byteCount, Nat.mul_comm]
    · exact fun undrawable => absurd drawable undrawable
    · intro width height bytes
      have widthSame : (width.toNat : Int) = w.toInt ↔ width.toNat = w.toInt.toNat := by omega
      have heightSame : (height.toNat : Int) = h.toInt ↔ height.toNat = h.toInt.toNat := by omega
      rw [measure?_eq_some_iff, widthSame, heightSame]
      constructor
      · rintro ⟨-, wide, high, counted⟩
        refine ⟨_, rfl, wide, high, ?_⟩
        rw [length_bytes, counted, wide, high]
      · rintro ⟨_, ⟨⟩, wide, high, counted⟩
        rw [length_bytes] at counted
        rw [wide, high]
        exact ⟨drawable, rfl, rfl, counted⟩
  · rw [draw, if_neg drawable]
    constructor
    · exact iff_of_false nofun drawable
    · nofun
    · exact fun _ => rfl
    · intro width height bytes
      rw [measure?_eq_some_iff]
      exact iff_of_false (fun measured => drawable measured.1) nofun

/-- `bimage` creates an image exactly if its sides are positive 32-bit numbers and it has at most
2^24 pixels.  The machine words that its size goes through hold exact numbers. -/
theorem image_sizes_exact :
    (∀ number side, sideWord? number = some side ↔
      IsSide number ∧ (side.toNat : Int) = number.toInt) ∧
    (∀ width height, (pixelWord width height).toNat = width.toNat * height.toNat) ∧
    (∀ pixels, pixels ≤ 0x1000000 → (byteWord pixels).toNat = 4 * pixels.toNat) ∧
    ∀ (bundle : Bundle) w h, bundle.get? "w" = some (.integer w) →
      bundle.get? "h" = some (.integer h) → checkRules imageCommand.rules bundle = .ok () ∧
        ∀ evaluate session info, ∃ outcome,
          Session.runHandler evaluate session (imageCommand.handler info bundle) =
            .done outcome ∧ DrawsExactly session w h outcome := by
  refine ⟨fun _ _ => sideWord?_eq_some_iff, toNat_pixelWord, fun _ => toNat_byteWord, ?_⟩
  intro bundle w h width height
  constructor
  · rw [checkRules_eq_ok_iff]
    have hasWidth : bundle.hasArgument "w" = true := by rw [Bundle.hasArgument_eq, width]; rfl
    have hasHeight : bundle.hasArgument "h" = true := by rw [Bundle.hasArgument_eq, height]; rfl
    simp [imageCommand, Rule.holds, width, height, hasWidth, hasHeight, Value.kind]
  · intro evaluate session info
    exact ⟨draw session w h, runHandler_imageCommand evaluate session info width height,
      drawsExactly_draw session w h⟩

def sized (w h : Int64) : Bundle :=
  (Bundle.withArgument {} "w" (.integer w)).withArgument "h" (.integer h)

/-- A square of 4096 pixels a side is as large as possible.  A width that is one when its upper
bits are cut off is no width, and an image whose number of pixels is one when its upper bits are
cut off is too large. -/
theorem draws_largest_square_and_no_wrapped_size :
    (∀ evaluate session info, ∃ outcome image,
      Session.runHandler evaluate session (imageCommand.handler info (sized 4096 4096)) =
        .done outcome ∧
      outcome.2 = .ok (.image image) ∧ image.bytes = List.replicate 0x4000000 0) ∧
    (∀ evaluate session info,
      Session.runHandler evaluate session (imageCommand.handler info (sized 0x100000001 1)) =
        .done (session, .error (.error (.badUsage "w must be a positive size, got 4294967297")))) ∧
    (∀ evaluate session info,
      Session.runHandler evaluate session
          (imageCommand.handler info (sized 0xFFFFFFFF 0xFFFFFFFF)) =
        .done (session, .error (.error
          (.badUsage "image 4294967295x4294967295 exceeds 16777216 pixels")))) := by
  have draws (w h : Int64) := (image_sizes_exact.2.2.2 (sized w h) w h rfl rfl).2
  refine ⟨fun evaluate session info => ?_, fun evaluate session info => ?_,
    fun evaluate session info => ?_⟩
  · obtain ⟨outcome, runs, exact⟩ := draws 4096 4096 evaluate session info
    obtain ⟨image, drawn⟩ := exact.yields_iff.2 (by decide +kernel)
    obtain ⟨_, ⟨⟩, width, height, bytes⟩ := exact.size _ drawn
    have widthEq : (image.width : Int) = 4096 := width
    have heightEq : (image.height : Int) = 4096 := height
    refine ⟨outcome, image, runs, drawn, ?_⟩
    rw [bytes, Int.ofNat.inj widthEq, Int.ofNat.inj heightEq]
  · obtain ⟨outcome, runs, exact⟩ := draws 0x100000001 1 evaluate session info
    have text : refusal 0x100000001 1 = "w must be a positive size, got 4294967297" := by
      decide +kernel
    rw [runs, exact.refuses (by decide +kernel), text]
  · obtain ⟨outcome, runs, exact⟩ := draws 0xFFFFFFFF 0xFFFFFFFF evaluate session info
    have text : refusal 0xFFFFFFFF 0xFFFFFFFF =
        "image 4294967295x4294967295 exceeds 16777216 pixels" := by
      decide +kernel
    rw [runs, exact.refuses (by decide +kernel), text]

end Builtin
end CommandShell
