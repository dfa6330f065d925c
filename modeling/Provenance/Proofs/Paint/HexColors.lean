import Mathlib.Data.List.Basic
import Provenance.Paint.Color
import Provenance.Proofs.Json.Strings
import Provenance.Proofs.Text.Lowercase

/-!
# Colours in hexadecimal digits

A colour is written as a hash and three channels of two hexadecimal digits.  The channels are
cut out of the text by counting bytes, and each of them is read on its own.  This module shows
that a colour that is written in this way is read as it is meant, whatever the case of its
letters, and says what becomes of all other texts.  They are middle grey, unless they have as
many bytes and another channel can be read in them.  Such a channel may stand beside one that
cannot be read, or it may be a plus and a single digit.

Main results:

- Theorem `byteSlice?_eq_some_iff`: what stands between two bytes of a text.
- Theorem `channel?_eq_some_iff`: which two characters are read as a channel.
- Theorem `exists_hex_eq`: each channel is the one that the text shows, or middle grey.
- Theorem `hex_eq_grey_iff`: the texts that are middle grey.
- Theorem `hex_digitsText`: a hash and six digits are the colour that they spell.
- Theorem `lowercase_digitsText`: an opaque colour is written in the lower case of its digits.
-/

namespace Provenance

/-! ## Bytes of a text -/

namespace Json

variable {cs xs ys : List Char}

/-- Bytes are counted from any start. -/
theorem foldl_utf8Size (cs : List Char) (n : Nat) :
    cs.foldl (fun n c => n + c.utf8Size) n = n + byteCount cs := by
  induction cs generalizing n with
  | nil => rfl
  | cons c cs ih =>
      rw [byteCount, List.foldl_cons, List.foldl_cons, ih, ih (0 + c.utf8Size)]
      omega

theorem byteCount_cons (c : Char) (cs : List Char) :
    byteCount (c :: cs) = c.utf8Size + byteCount cs := by
  rw [byteCount, List.foldl_cons, foldl_utf8Size, Nat.zero_add]

/-- The bytes of two texts add up. -/
theorem byteCount_append (xs ys : List Char) :
    byteCount (xs ++ ys) = byteCount xs + byteCount ys := by
  induction xs with
  | nil => exact (Nat.zero_add _).symm
  | cons c xs ih =>
      rw [List.cons_append, byteCount_cons, byteCount_cons, ih]
      omega

/-- Every character takes at least one byte. -/
theorem eq_nil_of_byteCount (h : byteCount cs = 0) : cs = [] := by
  cases cs with
  | nil => rfl
  | cons c cs =>
      rw [byteCount_cons] at h
      have hpos := c.utf8Size_pos
      omega

/-- Of two beginnings of a text the one with fewer bytes begins the other. -/
theorem prefix_of_byteCount_le (hxs : xs <+: cs) (hys : ys <+: cs)
    (hle : byteCount xs ≤ byteCount ys) : xs <+: ys := by
  rcases List.prefix_or_prefix_of_prefix hxs hys with hprefix | ⟨rest, rfl⟩
  · exact hprefix
  · rw [byteCount_append] at hle
    have hrest : rest = [] := eq_nil_of_byteCount (by omega)
    exact ⟨[], by simp [hrest]⟩

/-! ## Hexadecimal digits -/

namespace HexDigit

/-- Digits belong to the basic alphabet, and their lower case is the digit of the same value. -/
theorem char_basic (d : HexDigit) :
    d.char.toNat < 0x80 ∧ d.char.utf8Size = 1 ∧ d.char.toLower = Nat.digitChar d.value := by
  obtain ⟨value, capital⟩ := d
  revert value capital
  decide

/-- No digit is a plus. -/
theorem char_ne_plus (d : HexDigit) : d.char ≠ '+' := by
  intro h
  have hvalue := d.hexValue?_char
  rw [h] at hvalue
  exact absurd hvalue.symm (by simp [hexValue?])

/-- Every basic character that has a value is the digit of this value, large or small. -/
theorem char_of_hexValue?_basic : ∀ n < 0x80, ∀ v ∈ hexValue? (Char.ofNat n),
    ∃ (value : Fin 16) (capital : Bool),
      char ⟨value, capital⟩ = Char.ofNat n ∧ value.val = v := by
  decide +kernel

/-- Only basic characters have a value. -/
theorem toNat_lt_of_hexValue? {c : Char} {v : Nat} (h : hexValue? c = some v) :
    c.toNat < 0x80 := by
  have hbelow {top : Char} (hle : c ≤ top) (htop : top.toNat < 0x80) : c.toNat < 0x80 :=
    Nat.lt_of_le_of_lt hle htop
  unfold hexValue? at h
  split at h
  · rename_i hdigit
    exact hbelow hdigit.2 (by decide)
  · split at h
    · rename_i hsmall
      exact hbelow hsmall.2 (by decide)
    · split at h
      · rename_i hcapital
        exact hbelow hcapital.2 (by decide)
      · contradiction

/-- Only the digits have a value. -/
theorem exists_of_hexValue? {c : Char} {v : Nat} (h : hexValue? c = some v) :
    ∃ d : HexDigit, d.char = c ∧ d.value.val = v := by
  have hlt := toNat_lt_of_hexValue? h
  rw [← Char.ofNat_toNat c] at h
  obtain ⟨value, capital, hchar, hvalue⟩ := char_of_hexValue?_basic c.toNat hlt v h
  rw [Char.ofNat_toNat] at hchar
  exact ⟨⟨value, capital⟩, hchar, hvalue⟩

end HexDigit

end Json

namespace Color

open Json (byteCount byteCount_append byteCount_cons HexDigit)

/-! ## Slices of a text -/

variable {cs mid : List Char} {c : Char} {start i first last skip : Nat}

/-- Characters begin behind the beginnings of the text. -/
theorem mem_charStarts :
    i ∈ charStarts start cs ↔
      ∃ before after, cs = before ++ after ∧ i = start + byteCount before := by
  induction cs generalizing start with
  | nil =>
      rw [charStarts, List.mem_singleton]
      constructor
      · rintro rfl
        exact ⟨[], [], rfl, rfl⟩
      · rintro ⟨before, after, hsplit, rfl⟩
        rw [(List.append_eq_nil_iff.1 hsplit.symm).1]
        rfl
  | cons c cs ih =>
      rw [charStarts, List.mem_cons, ih]
      constructor
      · rintro (rfl | ⟨before, after, rfl, rfl⟩)
        · exact ⟨[], c :: cs, rfl, rfl⟩
        · refine ⟨c :: before, after, rfl, ?_⟩
          rw [byteCount_cons, Nat.add_assoc]
      · rintro ⟨before, after, hsplit, rfl⟩
        cases before with
        | nil => exact Or.inl rfl
        | cons d before =>
            obtain ⟨rfl, rfl⟩ := List.cons.inj hsplit
            refine Or.inr ⟨before, after, rfl, ?_⟩
            rw [byteCount_cons, Nat.add_assoc]

/-- The characters of a text with the bytes where they begin. -/
def located (start : Nat) (cs : List Char) : List (Char × Nat) := cs.zip (charStarts start cs)

/-- The characters of the second text begin behind the bytes of the first one. -/
theorem located_append (start : Nat) (xs ys : List Char) :
    located start (xs ++ ys) = located start xs ++ located (start + byteCount xs) ys := by
  induction xs generalizing start with
  | nil => rfl
  | cons c xs ih =>
      have hcons := ih (start + c.utf8Size)
      rw [byteCount_cons, ← Nat.add_assoc]
      exact congrArg ((c, start) :: ·) hcons

/-- No character is lost. -/
theorem map_fst_located (start : Nat) (cs : List Char) :
    (located start cs).map Prod.fst = cs := by
  induction cs generalizing start with
  | nil => rfl
  | cons c cs ih => exact congrArg (c :: ·) (ih (start + c.utf8Size))

/-- A character begins within the bytes of its text. -/
theorem bounds_of_mem_located (h : (c, i) ∈ located start cs) :
    start ≤ i ∧ i < start + byteCount cs := by
  induction cs generalizing start with
  | nil => cases h
  | cons d cs ih =>
      have hpos := d.utf8Size_pos
      rw [byteCount_cons]
      rcases List.mem_cons.1 h with heq | htail
      · cases heq
        omega
      · have hbounds := ih htail
        omega

/-- The character if it begins between the two bytes. -/
def within? (first last : Nat) (p : Char × Nat) : Option Char :=
  if first ≤ p.2 ∧ p.2 < last then some p.1 else none

/-- A slice between two starts of characters has the characters that begin there. -/
theorem byteSlice?_eq (cs : List Char) (first last : Nat) :
    byteSlice? cs first last =
      if first ∈ charStarts 0 cs ∧ last ∈ charStarts 0 cs then
        some ((located 0 cs).filterMap (within? first last))
      else none := by
  simp only [byteSlice?, Bool.and_eq_true, List.contains_iff_mem]
  rfl

/-- Nothing is taken from a text that lies before or behind the slice. -/
theorem filterMap_within?_eq_nil (h : start + byteCount cs ≤ first ∨ last ≤ start) :
    (located start cs).filterMap (within? first last) = [] := by
  rw [List.filterMap_eq_nil_iff]
  rintro ⟨c, i⟩ hmem
  have hbounds := bounds_of_mem_located hmem
  exact if_neg (by omega)

/-- A slice of just the bytes of a text is the text. -/
theorem filterMap_within?_self (start : Nat) (cs : List Char) :
    (located start cs).filterMap (within? start (start + byteCount cs)) = cs := by
  have hall : ∀ p ∈ located start cs, within? start (start + byteCount cs) p = some p.1 := by
    rintro ⟨c, i⟩ hmem
    exact if_pos (bounds_of_mem_located hmem)
  rw [List.filterMap_eq_map_iff_forall_eq_some.2 hall, map_fst_located]

/-- What stands behind a part of a text and before the rest is found by counting bytes. -/
theorem byteSlice?_append (before mid after : List Char) :
    byteSlice? (before ++ mid ++ after) (byteCount before) (byteCount before + byteCount mid) =
      some mid := by
  have hfirst : byteCount before ∈ charStarts 0 (before ++ mid ++ after) :=
    mem_charStarts.2 ⟨before, mid ++ after, List.append_assoc .., (Nat.zero_add _).symm⟩
  have hlast : byteCount before + byteCount mid ∈ charStarts 0 (before ++ mid ++ after) :=
    mem_charStarts.2 ⟨before ++ mid, after, rfl, by rw [byteCount_append, Nat.zero_add]⟩
  rw [byteSlice?_eq, if_pos ⟨hfirst, hlast⟩, located_append, located_append, byteCount_append,
    Nat.zero_add, Nat.zero_add, List.filterMap_append, List.filterMap_append,
    filterMap_within?_self, filterMap_within?_eq_nil (Or.inl (by omega)),
    filterMap_within?_eq_nil (Or.inr (Nat.le_refl _)), List.nil_append, List.append_nil]

/-- What stands between two bytes of a text. -/
theorem byteSlice?_eq_some_iff (hle : first ≤ last) :
    byteSlice? cs first last = some mid ↔
      ∃ before after, cs = before ++ mid ++ after ∧ byteCount before = first ∧
        byteCount before + byteCount mid = last := by
  constructor
  · intro h
    have hstarts : first ∈ charStarts 0 cs ∧ last ∈ charStarts 0 cs := by
      rw [byteSlice?_eq] at h
      split at h
      · assumption
      · contradiction
    obtain ⟨before, rest, hbefore, rfl⟩ := mem_charStarts.1 hstarts.1
    obtain ⟨upto, after, rfl, rfl⟩ := mem_charStarts.1 hstarts.2
    rw [Nat.zero_add, Nat.zero_add] at h hle
    -- both are beginnings of the text, so what stands between them is what the longer one adds
    obtain ⟨mid', rfl⟩ :=
      Json.prefix_of_byteCount_le ⟨rest, hbefore.symm⟩ (List.prefix_append _ after) hle
    rw [byteCount_append, byteSlice?_append] at h
    cases h
    exact ⟨before, after, rfl, (Nat.zero_add _).symm, by rw [byteCount_append, Nat.zero_add]⟩
  · rintro ⟨before, after, rfl, rfl, rfl⟩
    exact byteSlice?_append before mid after

/-! ## Channels -/

/-- Two hexadecimal digits. -/
structure HexPair where
  high : HexDigit
  low : HexDigit

namespace HexPair

def chars (p : HexPair) : List Char := [p.high.char, p.low.char]

/-- The channel that the digits stand for. -/
def value (p : HexPair) : UInt8 := (p.high.value.val * 16 + p.low.value.val).toUInt8

end HexPair

/-- Two characters that are read as a channel: two digits, or a plus and a digit. -/
inductive Spells : Char → Char → UInt8 → Prop where
  | digits (p : HexPair) : Spells p.high.char p.low.char p.value
  | plus (d : HexDigit) : Spells '+' d.char d.value.val.toUInt8

variable {a b : Char} {n : UInt8}

/-- Which two characters are read as a channel. -/
theorem channel?_eq_some_iff : channel? a b = some n ↔ Spells a b n := by
  constructor
  · intro h
    unfold channel? at h
    split at h
    · rename_i hplus
      obtain ⟨v, hv, rfl⟩ := Option.map_eq_some_iff.1 h
      obtain ⟨d, rfl, rfl⟩ := HexDigit.exists_of_hexValue? hv
      rw [hplus]
      exact Spells.plus d
    · simp only [Option.bind_eq_bind, Option.bind_eq_some_iff, Option.pure_def,
        Option.some.injEq] at h
      obtain ⟨u, hu, v, hv, rfl⟩ := h
      obtain ⟨high, rfl, rfl⟩ := HexDigit.exists_of_hexValue? hu
      obtain ⟨low, rfl, rfl⟩ := HexDigit.exists_of_hexValue? hv
      exact Spells.digits ⟨high, low⟩
  · intro h
    unfold channel?
    cases h with
    | digits p =>
        rw [if_neg p.high.char_ne_plus]
        simp [HexDigit.hexValue?_char, HexPair.value]
    | plus d =>
        rw [if_pos rfl, HexDigit.hexValue?_char]
        rfl

/-- A channel is two bytes long. -/
theorem Spells.byteCount (h : Spells a b n) : byteCount [a, b] = 2 := by
  have hplus : '+'.utf8Size = 1 := by decide
  cases h with
  | digits p =>
      rw [byteCount_cons, byteCount_cons, p.high.char_basic.2.1, p.low.char_basic.2.1]
      rfl
  | plus d =>
      rw [byteCount_cons, byteCount_cons, hplus, d.char_basic.2.1]
      rfl

/-- A channel can be read behind the given number of bytes. -/
def ReadsAt (cs : List Char) (skip : Nat) (n : UInt8) : Prop :=
  ∃ before a b after, cs = before ++ [a, b] ++ after ∧ byteCount before = skip ∧ Spells a b n

/-- A channel can be read where a slice of two characters spells one. -/
theorem readsAt_iff :
    ReadsAt cs skip n ↔
      ∃ a b, byteSlice? cs skip (skip + 2) = some [a, b] ∧ channel? a b = some n := by
  constructor
  · rintro ⟨before, a, b, after, rfl, rfl, hspells⟩
    -- each of the two characters takes one byte, so the slice holds just these two
    refine ⟨a, b, ?_, channel?_eq_some_iff.2 hspells⟩
    rw [← hspells.byteCount, byteSlice?_append]
  · rintro ⟨a, b, hslice, hchannel⟩
    obtain ⟨before, after, hcs, hskip, -⟩ :=
      (byteSlice?_eq_some_iff (Nat.le_add_right skip 2)).1 hslice
    exact ⟨before, a, b, after, hcs, hskip, channel?_eq_some_iff.1 hchannel⟩

/-- A channel that can be read is taken. -/
theorem channelAt_of_readsAt (h : ReadsAt cs skip n) : channelAt cs skip = n := by
  obtain ⟨a, b, hslice, hchannel⟩ := readsAt_iff.1 h
  simp [channelAt, hslice, hchannel]

/-- Where no channel can be read, middle grey is taken. -/
theorem channelAt_of_not_readsAt (h : ∀ n, ¬ ReadsAt cs skip n) : channelAt cs skip = 128 := by
  unfold channelAt
  split
  · rename_i a b hslice
    cases hchannel : channel? a b with
    | none => rfl
    | some n => exact absurd (readsAt_iff.2 ⟨a, b, hslice, hchannel⟩) (h n)
  · rfl

/-! ## Texts -/

/-- A hash and six more bytes. -/
def Framed (text : String) : Prop := text.toList.head? = some '#' ∧ byteCount text.toList = 7

variable {text : String}

/-- A text of the right length is read channel by channel. -/
theorem hex_of_framed (h : Framed text) :
    hex text = rgb (channelAt text.toList 1) (channelAt text.toList 3)
      (channelAt text.toList 5) := by
  obtain ⟨cs, hcs⟩ := List.head?_eq_some_iff.1 h.1
  have hcount := h.2
  unfold hex
  simp only [hcs] at hcount ⊢
  exact if_pos hcount

/-- Any other text is middle grey. -/
theorem hex_of_not_framed (h : ¬ Framed text) : hex text = rgb 128 128 128 := by
  unfold hex
  dsimp only
  split
  · rename_i cs hcs
    refine if_neg fun hcount => h ⟨?_, hcount⟩
    rw [hcs]
    rfl
  · rfl

/-- A text shows a channel if it has the right length and the channel can be read in it. -/
def Shows (text : String) (skip : Nat) (n : UInt8) : Prop :=
  Framed text ∧ ReadsAt text.toList skip n

/-- What is taken for a channel of a text: the one that it shows, and middle grey if it shows
none. -/
inductive IsChannel (text : String) (skip : Nat) : UInt8 → Prop where
  | shown {n : UInt8} (h : Shows text skip n) : IsChannel text skip n
  | grey (h : ∀ n, ¬ Shows text skip n) : IsChannel text skip 128

/-- Each channel of a text of the right length is the one that it shows, or middle grey. -/
theorem isChannel_of_framed (h : Framed text) (skip : Nat) :
    IsChannel text skip (channelAt text.toList skip) := by
  by_cases hread : ∃ n, ReadsAt text.toList skip n
  · obtain ⟨n, hn⟩ := hread
    rw [channelAt_of_readsAt hn]
    exact IsChannel.shown ⟨h, hn⟩
  · have hnone : ∀ n, ¬ ReadsAt text.toList skip n := fun n hn => hread ⟨n, hn⟩
    rw [channelAt_of_not_readsAt hnone]
    exact IsChannel.grey fun n hn => hnone n hn.2

/-- Each channel of a colour is read on its own. -/
theorem exists_hex_eq (text : String) :
    ∃ r g b, hex text = rgb r g b ∧ IsChannel text 1 r ∧ IsChannel text 3 g ∧
      IsChannel text 5 b := by
  by_cases hframed : Framed text
  · exact ⟨_, _, _, hex_of_framed hframed, isChannel_of_framed hframed 1,
      isChannel_of_framed hframed 3, isChannel_of_framed hframed 5⟩
  · have hgrey (skip : Nat) : IsChannel text skip 128 :=
      IsChannel.grey fun n hn => hframed hn.1
    exact ⟨128, 128, 128, hex_of_not_framed hframed, hgrey 1, hgrey 3, hgrey 5⟩

/-- A text shows at most one channel at a place. -/
theorem Shows.unique {m : UInt8} (hm : Shows text skip m) (hn : Shows text skip n) : m = n := by
  rw [← channelAt_of_readsAt hm.2, channelAt_of_readsAt hn.2]

/-- What is taken for a channel is the one that the text shows. -/
theorem IsChannel.eq_of_shows {m : UInt8} (hm : IsChannel text skip m)
    (hn : Shows text skip n) : m = n := by
  cases hm with
  | shown hm => exact hm.unique hn
  | grey hnone => exact absurd hn (hnone n)

/-- A channel is middle grey exactly if the text shows no other one. -/
theorem IsChannel.eq_grey_iff (h : IsChannel text skip n) :
    n = 128 ↔ ∀ m, Shows text skip m → m = 128 := by
  constructor
  · rintro rfl m hm
    exact (h.eq_of_shows hm).symm
  · intro hall
    cases h with
    | shown hn => exact hall n hn
    | grey => rfl

/-- The texts that are middle grey. -/
theorem hex_eq_grey_iff (text : String) :
    hex text = rgb 128 128 128 ↔
      ∀ skip ∈ [1, 3, 5], ∀ n, Shows text skip n → n = 128 := by
  obtain ⟨r, g, b, hhex, hr, hg, hb⟩ := exists_hex_eq text
  simp only [List.forall_mem_cons, List.not_mem_nil, false_imp_iff, implies_true, and_true]
  rw [hhex, ← hr.eq_grey_iff, ← hg.eq_grey_iff, ← hb.eq_grey_iff]
  simp [rgb]

/-! ## A hash and six digits -/

/-- The text of a hash and six digits. -/
def digitsText (r g b : HexPair) : String :=
  String.ofList ('#' :: (r.chars ++ g.chars ++ b.chars))

/-- No other characters stand in such a text. -/
theorem hexValue?_of_mem_digitsText {r g b : HexPair}
    (h : c ∈ (digitsText r g b).toList) : c = '#' ∨ (Json.hexValue? c).isSome := by
  have hpair {p : HexPair} (hc : c ∈ p.chars) : (Json.hexValue? c).isSome := by
    simp only [HexPair.chars, List.mem_cons, List.not_mem_nil, or_false] at hc
    rcases hc with rfl | rfl <;> rw [HexDigit.hexValue?_char] <;> rfl
  rw [digitsText, String.toList_ofList, List.mem_cons, List.mem_append, List.mem_append] at h
  rcases h with hhash | (hr | hg) | hb
  · exact Or.inl hhash
  · exact Or.inr (hpair hr)
  · exact Or.inr (hpair hg)
  · exact Or.inr (hpair hb)

theorem HexPair.byteCount_chars (p : HexPair) : byteCount p.chars = 2 :=
  (Spells.digits p).byteCount

/-- A hash and six digits have the right length. -/
theorem framed_digitsText (r g b : HexPair) : Framed (digitsText r g b) := by
  unfold Framed digitsText
  rw [String.toList_ofList, byteCount_cons, byteCount_append, byteCount_append,
    r.byteCount_chars, g.byteCount_chars, b.byteCount_chars]
  exact ⟨rfl, by decide⟩

/-- The three channels stand behind each other. -/
theorem readsAt_digitsText (r g b : HexPair) :
    ReadsAt (digitsText r g b).toList 1 r.value ∧
      ReadsAt (digitsText r g b).toList 3 g.value ∧
      ReadsAt (digitsText r g b).toList 5 b.value := by
  have hhash : '#'.utf8Size = 1 := by decide
  unfold digitsText
  rw [String.toList_ofList]
  refine ⟨⟨['#'], _, _, g.chars ++ b.chars, ?_, ?_, Spells.digits r⟩,
    ⟨'#' :: r.chars, _, _, b.chars, ?_, ?_, Spells.digits g⟩,
    ⟨'#' :: (r.chars ++ g.chars), _, _, [], ?_, ?_, Spells.digits b⟩⟩
  · simp [HexPair.chars]
  · rw [byteCount_cons, hhash]
    rfl
  · simp [HexPair.chars]
  · rw [byteCount_cons, r.byteCount_chars, hhash]
  · simp [HexPair.chars]
  · rw [byteCount_cons, byteCount_append, r.byteCount_chars, g.byteCount_chars, hhash]

/-- A hash and six digits are the colour that they spell. -/
theorem hex_digitsText (r g b : HexPair) :
    hex (digitsText r g b) = rgb r.value g.value b.value := by
  obtain ⟨hr, hg, hb⟩ := readsAt_digitsText r g b
  rw [hex_of_framed (framed_digitsText r g b), channelAt_of_readsAt hr, channelAt_of_readsAt hg,
    channelAt_of_readsAt hb]

/-- An opaque colour is written in six digits. -/
theorem css_rgb (r g b : UInt8) :
    css (rgb r g b) =
      String.ofList ('#' :: channelText r ++ channelText g ++ channelText b) := by
  have hopaque : ((1.0 : Float) - 1.0).abs < 0.001 := by decide +kernel
  exact if_pos hopaque

/-- The channel of two digits does not overflow. -/
theorem HexPair.toNat_value (p : HexPair) :
    p.value.toNat = p.high.value.val * 16 + p.low.value.val := by
  have hhigh := p.high.value.isLt
  have hlow := p.low.value.isLt
  have hmod : p.value.toNat = (p.high.value.val * 16 + p.low.value.val) % 256 := rfl
  omega

/-- A channel is written with the digits that it was read from, in small letters. -/
theorem channelText_value (p : HexPair) : channelText p.value = p.chars.map Char.toLower := by
  have hlow := p.low.value.isLt
  have hdiv : (p.high.value.val * 16 + p.low.value.val) / 16 = p.high.value.val := by omega
  have hmod : (p.high.value.val * 16 + p.low.value.val) % 16 = p.low.value.val := by omega
  rw [channelText, p.toNat_value, hdiv, hmod, ← p.high.char_basic.2.2,
    ← p.low.char_basic.2.2]
  rfl

/-- In small letters a text of a hash and six digits is what its channels are written as. -/
theorem lowercase_digitsText (r g b : HexPair) :
    Text.lowercase (digitsText r g b) =
      String.ofList
        ('#' :: channelText r.value ++ channelText g.value ++ channelText b.value) := by
  have hbasic : ∀ c ∈ '#' :: (r.chars ++ g.chars ++ b.chars), c.toNat < 0x80 := by
    have hpair (p : HexPair) : ∀ c ∈ p.chars, c.toNat < 0x80 := by
      simp [HexPair.chars, HexDigit.char_basic]
    simp only [List.forall_mem_cons, List.forall_mem_append]
    exact ⟨by decide, ⟨hpair r, hpair g⟩, hpair b⟩
  rw [Text.lowercase, digitsText, String.toList_ofList, Text.lowerFrom_of_basic hbasic,
    channelText_value, channelText_value, channelText_value, List.map_cons, List.map_append,
    List.map_append]
  rfl

/-- How every text is read as a colour.  A hash and six digits are the colour that they spell,
which is written again in lower case.  In any text of a hash and six more bytes each channel is
read on its own, and a channel that cannot be read is middle grey.  So a text is middle grey
unless it shows another channel; it need not consist of digits to show one. -/
theorem hex_exact (text : String) :
    (∀ r g b : HexPair, text = digitsText r g b →
      hex text = rgb r.value g.value b.value ∧ css (hex text) = Text.lowercase text) ∧
    (∃ r g b,
      hex text = rgb r g b ∧ IsChannel text 1 r ∧ IsChannel text 3 g ∧ IsChannel text 5 b) ∧
    (hex text = rgb 128 128 128 ↔ ∀ skip ∈ [1, 3, 5], ∀ n, Shows text skip n → n = 128) := by
  refine ⟨?_, exists_hex_eq text, hex_eq_grey_iff text⟩
  rintro r g b rfl
  rw [hex_digitsText]
  exact ⟨rfl, by rw [css_rgb, lowercase_digitsText]⟩

/-- Digits of either case are read, and written in lower case. -/
theorem hex_exact_mixedCase :
    "#65A30d" = digitsText ⟨⟨6, false⟩, ⟨5, false⟩⟩ ⟨⟨10, true⟩, ⟨3, false⟩⟩
      ⟨⟨0, true⟩, ⟨13, false⟩⟩ ∧
    hex "#65A30d" = rgb 101 163 13 ∧ css (hex "#65A30d") = "#65a30d" := by
  have htext : "#65A30d" = digitsText ⟨⟨6, false⟩, ⟨5, false⟩⟩ ⟨⟨10, true⟩, ⟨3, false⟩⟩
      ⟨⟨0, true⟩, ⟨13, false⟩⟩ := by decide
  have hlower : Text.lowercase "#65A30d" = "#65a30d" := by decide +kernel
  obtain ⟨hhex, hcss⟩ := (hex_exact "#65A30d").1 _ _ _ htext
  exact ⟨htext, hhex, hcss.trans hlower⟩

/-- Neither text is a hash and six digits, and neither is middle grey: a plus may stand before a
single digit, and a channel is read although another one cannot be read. -/
theorem hex_without_digits_not_grey :
    ((∀ r g b : HexPair, "#+a+b+c" ≠ digitsText r g b) ∧
      hex "#+a+b+c" = rgb 10 11 12 ∧ hex "#+a+b+c" ≠ rgb 128 128 128) ∧
    ((∀ r g b : HexPair, "#12zz34" ≠ digitsText r g b) ∧
      hex "#12zz34" = rgb 18 128 52 ∧ hex "#12zz34" ≠ rgb 128 128 128) := by
  have hplus : hex "#+a+b+c" = rgb 10 11 12 := rfl
  have hparts : hex "#12zz34" = rgb 18 128 52 := rfl
  refine ⟨⟨?_, hplus, ?_⟩, ⟨?_, hparts, ?_⟩⟩
  · intro r g b h
    have hmem : '+' ∈ (digitsText r g b).toList := h ▸ by decide
    exact absurd (hexValue?_of_mem_digitsText hmem) (by decide)
  · rw [hplus]
    intro h
    exact absurd (congrArg Color.red h) (by decide)
  · intro r g b h
    have hmem : 'z' ∈ (digitsText r g b).toList := h ▸ by decide
    exact absurd (hexValue?_of_mem_digitsText hmem) (by decide)
  · rw [hparts]
    intro h
    exact absurd (congrArg Color.red h) (by decide)

end Color

end Provenance
