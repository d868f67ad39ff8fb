import ChatFlow.Json.Bytes
import ChatFlow.Proofs.Json.Documents

/-!
# Documents of bytes

* `storable_of_shown_readBytes` — what is read from bytes can be held by a document;
* `spelling?_encode` — text without zeros that begins with no mark is taken for UTF-8;
* `readBytes_encode` — **the bytes of the written form of an exact value are read as the value**.
-/

namespace ChatFlow.Json

/-- What is shown of bytes can be held by a document. -/
theorem storable_of_shown_readBytes {data : List UInt8} {v : Value}
    (h : (readBytes data).bind shown? = some v) : Storable Number.Writable v := by
  obtain ⟨reading, hreading, h⟩ := Option.bind_eq_some_iff.mp h
  obtain ⟨spelling, -, hread⟩ := Option.map_eq_some_iff.mp hreading
  apply storable_of_shown (s := spelling.chars)
  cases hchars : readChars spelling.chars with
  | ok found =>
    rw [hchars] at hread
    -- a half in the bytes does not change what is shown
    cases hhalved : spelling.halved <;> simp only [hhalved] at hread <;> subst hread <;> exact h
  | error fault =>
    simp only [hchars] at hread
    exact hread ▸ h

/-! ## The encoding of written text -/

variable {s : List Char}

/-- Text does not begin with the mark of UTF-8 but by its first character. -/
theorem head?_of_mark {rest : List UInt8} (h : Utf8.encode s = 0xEF :: 0xBB :: 0xBF :: rest) :
    s.head? = some '\ufeff' := by
  have hpieces : s.map some = some '\ufeff' :: Utf8.pieces rest 0 := by
    rw [← Utf8.pieces_encode, h]
    exact Utf8.pieces_encodeChar '\ufeff' rest
  cases s with
  | nil => cases hpieces
  | cons c s => exact (List.cons.inj hpieces).1

theorem mark?_encode (hnul : '\x00' ∉ s) (hmark : s.head? ≠ some '\ufeff') :
    Encoding.mark? (Utf8.encode s) = none := by
  have hzero : (0 : UInt8) ∉ Utf8.encode s := fun hmem => hnul (Utf8.nul_mem_of_mem_encode hmem)
  have hgreat (b : UInt8) (hb : 248 ≤ b.toNat) : b ∉ Utf8.encode s := fun hmem =>
    absurd (Utf8.toNat_lt_of_mem_encode hmem) (not_lt.mpr hb)
  have hstart {start : List UInt8} (h : start.isPrefixOf (Utf8.encode s) = true) :
      ∃ rest, start ++ rest = Utf8.encode s := List.isPrefixOf_iff_prefix.mp h
  rw [Encoding.mark?, List.find?_eq_none]
  simp only [Encoding.marks, List.forall_mem_cons, List.not_mem_nil, false_implies, implies_true,
    and_true]
  refine ⟨fun h => ?_, fun h => ?_, fun h => ?_, fun h => ?_, fun h => ?_⟩ <;>
    obtain ⟨rest, hrest⟩ := hstart h
  · exact hzero (hrest ▸ by simp)
  · exact hzero (hrest ▸ by simp)
  · exact hgreat 0xFE (by decide) (hrest ▸ by simp)
  · exact hgreat 0xFF (by decide) (hrest ▸ by simp)
  · exact hmark (head?_of_mark hrest.symm)

theorem guess_of_zero_notMem {data : List UInt8} (h : 0 ∉ data) : Encoding.guess data = .utf8 := by
  unfold Encoding.guess
  split
  · next a b c d rest =>
    simp only [List.mem_cons, not_or] at h
    rw [if_neg (Ne.symm h.1), if_neg (Ne.symm h.2.1)]
  · next a b =>
    simp only [List.mem_cons, not_or] at h
    rw [if_neg (Ne.symm h.1), if_neg (Ne.symm h.2.1)]
  · rfl

/-- **Text without zeros that begins with no mark** is taken for what it is. -/
theorem spelling?_encode (hnul : '\x00' ∉ s) (hmark : s.head? ≠ some '\ufeff') :
    spelling? (Utf8.encode s) = some ⟨s, false⟩ := by
  have hguess : Encoding.guess (Utf8.encode s) = .utf8 :=
    guess_of_zero_notMem fun hmem => hnul (Utf8.nul_mem_of_mem_encode hmem)
  simp only [spelling?, mark?_encode hnul hmark, hguess, Encoding.decode?, Utf8.decode?_encode]

/-- A mark at the start of a text is no part of a document. -/
theorem readChars_mark (rest : List Char) : readChars ('\ufeff' :: rest) = .error .malformed := rfl

/-- **The bytes of the written form of an exact value are read as the value.** -/
theorem readBytes_encode {content : String} {layout : Layout} (hlayout : layout.Readable)
    {v : Value} (hv : Exact v) (hcontent : write layout v = .ok content) :
    readBytes (Utf8.encode content.toList) = some (.ok v) := by
  have hchars := readChars_write hlayout hv hcontent
  have hmark : content.toList.head? ≠ some '\ufeff' := by
    intro hhead
    obtain ⟨rest, hrest⟩ := List.head?_eq_some_iff.mp hhead
    rw [hrest, readChars_mark] at hchars
    cases hchars
  rw [readBytes, spelling?_encode (nul_notMem_write hlayout hcontent) hmark, Option.map_some]
  simp only [hchars]
  rfl

end ChatFlow.Json
