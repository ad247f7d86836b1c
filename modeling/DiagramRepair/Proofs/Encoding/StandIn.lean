import DiagramRepair.Encoding.StandIn
import DiagramRepair.Proofs.Text.Ascii
import Mathlib.Data.List.Nodup
import Mathlib.Data.List.Perm.Subperm

/-! Stand-ins for halves of surrogate pairs come back as the halves they stand for. The characters
that are taken are private ones that the text does not hold, and no two halves share one; so what a
text from outside holds, its halves included, is what leaves the program again.
-/

namespace DiagramRepair.Encoding

namespace StandIns

variable (standIns : StandIns)

-----------------------------------------------------------------------------------------
-- Code points one by one
-----------------------------------------------------------------------------------------

theorem text_ofText (text : Text) : standIns.text (RawText.ofText text) = text := by
  simp only [StandIns.text, RawText.ofText, List.map_map]
  exact List.map_id text

theorem mem_raw_iff {text : Text} {point : CodePoint}
    : point ∈ standIns.raw text ↔ ∃ c ∈ text, standIns.codePoint c = point :=
  List.mem_map

theorem codePoint_of_not_mem {c : Char} (h : isPrivate c = true → c ∉ standIns.chars)
    : standIns.codePoint c = .character c := by
  have hnone : standIns.half? c = .none := by
    rw [half?]
    split
    · rename_i hprivate
      rw [List.idxOf?_eq_none_iff.2 (h hprivate)]
      rfl
    · rfl
  rw [codePoint, hnone]

theorem not_isPrivate_of_lt {c : Char} (h : c.toNat < 0x80) : isPrivate c = false := by
  rw [isPrivate, decide_eq_false_iff_not, firstPrivate]
  omega

/-- Nothing in ASCII stands in for a half. -/
theorem codePoint_of_lt {c : Char} (h : c.toNat < 0x80)
    : standIns.codePoint c = .character c :=
  codePoint_of_not_mem standIns fun hprivate =>
    absurd hprivate (by simp [not_isPrivate_of_lt h])

theorem raw_of_isAscii {text : Text} (h : text.IsAscii)
    : standIns.raw text = RawText.ofText text :=
  List.map_congr_left fun c hc => codePoint_of_lt standIns (h c hc)

theorem eq_of_character?_codePoint {c d : Char}
    (h : (standIns.codePoint c).character? = some d)
    : d = c := by
  rw [codePoint] at h
  split at h
  · contradiction
  · exact (Option.some.inj h).symm

/-- Where no half is left, all characters stand for themselves. -/
theorem eq_of_mapM_character? {standIns : StandIns} {text chars : Text}
    (h : (standIns.raw text).mapM CodePoint.character? = some chars)
    : chars = text := by
  induction text generalizing chars with
  | nil => exact (Option.some.inj h).symm
  | cons c rest ih =>
      rw [raw, List.map_cons, List.mapM_cons] at h
      obtain ⟨first, hfirst, h⟩ := Option.bind_eq_some_iff.1 h
      obtain ⟨others, hothers, h⟩ := Option.bind_eq_some_iff.1 h
      obtain rfl := Option.some.inj h
      rw [eq_of_character?_codePoint standIns hfirst, ih hothers]

theorem half_of_codePoint {c : Char} {half : Half} (h : standIns.codePoint c = .half half)
    : c ∈ standIns.chars := by
  by_contra hmem
  rw [codePoint_of_not_mem standIns fun _ => hmem] at h
  contradiction

-----------------------------------------------------------------------------------------
-- Characters that are not taken
-----------------------------------------------------------------------------------------

theorem toNat_ofNat_of_private {code : Nat} (hl : firstPrivate ≤ code)
    (hm : code < firstPrivate + privateCount)
    : (Char.ofNat code).toNat = code := by
  have hvalid : code.isValidChar := by
    simp only [firstPrivate, privateCount] at hl hm
    exact Or.inr ⟨by omega, by omega⟩
  rw [Char.ofNat, dif_pos hvalid]
  rfl

variable {used : Text}

/-- The private characters that a text takes. -/
def taken (used : Text) : Text :=
  used.filter isPrivate

/-- Enough private characters are left for all halves. -/
def HasRoom (used : Text) : Prop :=
  Half.count + (taken used).length ≤ privateCount

/-- The private characters from which those are left out that are taken. -/
def candidates (used : Text) : List Char :=
  (List.range' firstPrivate (min (Half.count + (taken used).length) privateCount)).map Char.ofNat

theorem chars_avoiding (used : Text)
    : (avoiding used).chars
      = ((candidates used).filter fun c => !(taken used).contains c).take Half.count :=
  rfl

theorem lt_of_mem_range' {code count : Nat}
    (h : code ∈ List.range' firstPrivate (min count privateCount))
    : firstPrivate ≤ code ∧ code < firstPrivate + privateCount := by
  have hlt := List.mem_range'_1.1 h
  omega

theorem isPrivate_of_mem_candidates {c : Char} (h : c ∈ candidates used) : isPrivate c = true := by
  obtain ⟨code, hcode, rfl⟩ := List.mem_map.1 h
  obtain ⟨hl, hm⟩ := lt_of_mem_range' hcode
  simpa [isPrivate, toNat_ofNat_of_private hl hm] using hl

theorem nodup_candidates (used : Text) : (candidates used).Nodup := by
  refine List.Nodup.map_on (fun code hcode other hother h => ?_) List.nodup_range'
  obtain ⟨hl, hm⟩ := lt_of_mem_range' hcode
  obtain ⟨hol, hom⟩ := lt_of_mem_range' hother
  have htoNat := congrArg Char.toNat h
  rwa [toNat_ofNat_of_private hl hm, toNat_ofNat_of_private hol hom] at htoNat

theorem nodup_chars_avoiding (used : Text) : (avoiding used).chars.Nodup :=
  ((nodup_candidates used).filter _).sublist (List.take_sublist _ _)

theorem mem_chars_avoiding {c : Char} (h : c ∈ (avoiding used).chars)
    : isPrivate c = true ∧ c ∉ used := by
  obtain ⟨hcandidate, hfree⟩ : c ∈ candidates used ∧ (!(taken used).contains c) = true :=
    List.mem_filter.1 (List.mem_of_mem_take h)
  have hprivate := isPrivate_of_mem_candidates hcandidate
  refine ⟨hprivate, fun hused => ?_⟩
  have htaken : (taken used).contains c = true :=
    List.contains_iff_mem.2 (List.mem_filter.2 ⟨hused, hprivate⟩)
  rw [htaken] at hfree
  contradiction

/-- The candidates that are taken are not more than what is taken, and there are so many more
candidates as there are halves. -/
theorem length_chars_avoiding (h : HasRoom used) : (avoiding used).chars.length = Half.count := by
  have hall : (candidates used).length = Half.count + (taken used).length := by
    rw [candidates, List.length_map, List.length_range', Nat.min_eq_left h]
  have hout : ((candidates used).filter fun c => (taken used).contains c).length
      ≤ (taken used).length := by
    refine (List.subperm_of_subset ((nodup_candidates used).filter _) fun c hc => ?_).length_le
    simpa using (List.mem_filter.1 hc).2
  have hsplit := List.length_eq_length_filter_add (l := candidates used)
    fun c => (taken used).contains c
  rw [chars_avoiding, List.length_take]
  omega

-----------------------------------------------------------------------------------------
-- Texts from outside
-----------------------------------------------------------------------------------------

theorem ofIndex?_index (half : Half) : Half.ofIndex? half.index = some half := by
  have hcode : 0xD800 + half.index = half.code := Nat.add_sub_cancel' half.least
  rw [Half.ofIndex?, hcode, Half.ofCode?, dif_pos ⟨half.least, half.most⟩]

theorem index_lt_count (half : Half) : half.index < Half.count := by
  have hlt := Nat.sub_lt_sub_right half.least half.most
  exact hlt

/-- A half is told again by the character that stands in for it. -/
theorem exists_char?_avoiding (h : HasRoom used) (half : Half)
    : ∃ c, (avoiding used).char? half = some c ∧ (avoiding used).codePoint c = .half half := by
  have hlt : half.index < (avoiding used).chars.length := by
    rw [length_chars_avoiding h]
    exact index_lt_count half
  have hprivate := (mem_chars_avoiding (List.getElem_mem hlt)).1
  have hindex : (avoiding used).chars.idxOf? (avoiding used).chars[half.index]
      = some half.index := by
    refine List.idxOf?_eq_some_iff.2 ⟨hlt, rfl, fun other hother hsame => ?_⟩
    have heq := (nodup_chars_avoiding used).getElem_inj_iff.1 hsame
    omega
  refine ⟨_, List.getElem?_eq_getElem hlt, ?_⟩
  rw [codePoint, half?, if_pos hprivate, hindex, Option.bind_some, ofIndex?_index]

/-- A character of the text stands for itself. -/
theorem codePoint_avoiding_of_mem {c : Char} (h : c ∈ used)
    : (avoiding used).codePoint c = .character c :=
  codePoint_of_not_mem _ fun _ hmem => (mem_chars_avoiding hmem).2 h

/-- What a text from outside holds is told again when it has been taken in. -/
theorem raw_text_ofRaw {raw part : RawText} (hr : HasRoom (raw.filterMap CodePoint.character?))
    (hp : part ⊆ raw)
    : (ofRaw raw).raw ((ofRaw raw).text part) = part := by
  rw [StandIns.raw, StandIns.text, List.map_map]
  conv_rhs => rw [← List.map_id part]
  refine List.map_congr_left fun point hpoint => ?_
  rw [ofRaw]
  cases point with
  | character c =>
      split
      · exact codePoint_avoiding_of_mem (List.mem_filterMap.2 ⟨_, hp hpoint, rfl⟩)
      · exact codePoint_of_not_mem _ fun _ => List.not_mem_nil
  | half half =>
      have hany : raw.any CodePoint.isHalf = true := List.any_eq_true.2 ⟨_, hp hpoint, rfl⟩
      rw [if_pos hany]
      obtain ⟨c, hchar, hc⟩ := exists_char?_avoiding hr half
      simp only [Function.comp_apply, hchar, Option.getD_some, hc, id_eq]

/-- A text without private characters changes nothing about what stands in for halves. -/
theorem ofRaw_append_ofText {text : Text} (h : ∀ c ∈ text, isPrivate c = false) (raw : RawText)
    : ofRaw (RawText.ofText text ++ raw) = ofRaw raw := by
  have hany : (RawText.ofText text ++ raw).any CodePoint.isHalf = raw.any CodePoint.isHalf := by
    simp [RawText.ofText, CodePoint.isHalf]
  have hchars : (RawText.ofText text).filterMap CodePoint.character? = text := by
    rw [RawText.ofText, List.filterMap_map]
    exact List.filterMap_some
  have htaken : text.filter isPrivate = [] := by
    simpa [List.filter_eq_nil_iff] using h
  have havoid : avoiding (text ++ raw.filterMap CodePoint.character?)
      = avoiding (raw.filterMap CodePoint.character?) := by
    simp only [avoiding, List.filter_append, htaken, List.nil_append]
  rw [ofRaw, ofRaw, hany, List.filterMap_append, hchars, havoid]

end StandIns

end DiagramRepair.Encoding
