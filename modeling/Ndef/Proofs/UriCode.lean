import Ndef.Proofs.PosterDraft

/-!
# The codes of URIs

The code in the payload of a URI is the lowest one whose abbreviation begins the URI, or zero
if none does (`Uri.IsCodeOf`).  Reading accepts every code of the table, so a payload that is
read need not be the one that is written of its URI: it is exactly if its code is that of the
URI (`Uri.encode_exact`).
-/

namespace Ndef.Uri

/-- The abbreviation with the given code, which is not zero, begins the URI. -/
def Begins (code : Nat) (uri : String) : Prop :=
  0 < code ∧ ∃ start rest, ("" :: abbreviations)[code]? = some start ∧ uri = start ++ rest

/-- The code is the lowest one whose abbreviation begins the URI, or zero if there is none. -/
def IsCodeOf (code : Nat) (uri : String) : Prop :=
  (Begins code uri ∧ ∀ i, Begins i uri → code ≤ i) ∨ (code = 0 ∧ ∀ i, ¬ Begins i uri)

variable {uri : String} {code : Nat}

theorem IsCodeOf.unique {i : Nat} (h : IsCodeOf code uri) (hi : IsCodeOf i uri) :
  code = i
  := by
  rcases h with ⟨hbegins, hleast⟩ | ⟨rfl, hnone⟩
  · rcases hi with ⟨hbegins', hleast'⟩ | ⟨rfl, hnone⟩
    · apply Nat.le_antisymm
      · apply hleast i hbegins'
      · apply hleast' code hbegins
    · exact absurd hbegins (hnone code)
  · rcases hi with ⟨hbegins', -⟩ | ⟨rfl, -⟩
    · exact absurd hbegins' (hnone i)
    · rfl

/-! ### The code that is written -/

theorem begins_iff :
  Begins code uri
    ↔ 1 ≤ code ∧ ∃ start, abbreviations[code - 1]? = some start ∧ (dropStart? start uri).isSome
  := by
  simp only [Option.isSome_iff_exists, dropStart?_eq_some_iff]
  cases code with
  | zero => simp [Begins]
  | succ i => simp [Begins]

/-- The code of an abbreviated URI is the lowest one whose abbreviation begins the URI. -/
theorem isCodeOf_of_abbreviate? {rest : String} (h : abbreviate? uri = some (code, rest)) :
  IsCodeOf code uri
  := by
  rw [abbreviate?, List.findSome?_eq_some_iff] at h
  obtain ⟨before, ⟨start, i⟩, after, hsplit, hpair, hbefore⟩ := h
  obtain ⟨rest', hdrop, heq⟩ := Option.map_eq_some_iff.mp hpair
  injection heq with heq
  subst heq
  obtain ⟨front, back, hlist, rfl, hback⟩ := List.zipIdx_eq_append_iff.mp hsplit
  obtain ⟨start', back', rfl, hhead, -⟩ := List.zipIdx_eq_cons_iff.mp hback.symm
  injection hhead with hstart hi
  subst hstart hi
  left
  constructor
  · apply begins_iff.mpr
    refine ⟨by omega, start, ?_, ?_⟩
    · rw [hlist, Nat.add_sub_cancel_left]
      simp
    · rw [hdrop]
      rfl
  · intro j hj
    obtain ⟨hpos, other, hother, hsome⟩ := begins_iff.mp hj
    by_contra hlt
    -- An abbreviation with a lower code stands before the one that was found.
    have hfront : front[j - 1]? = some other := by
      rw [← hother, hlist, List.getElem?_append_left (by omega)]
    have hmem : (other, j) ∈ front.zipIdx 1 :=
      List.mk_mem_zipIdx_iff_le_and_getElem?_sub.mpr ⟨hpos, hfront⟩
    have hnone := hbefore _ hmem
    rw [Option.map_eq_none_iff] at hnone
    rw [hnone] at hsome
    cases hsome

/-- No abbreviation begins a URI that is not abbreviated. -/
theorem not_begins_of_abbreviate? (h : abbreviate? uri = none) (i : Nat) :
  ¬ Begins i uri
  := by
  intro hi
  obtain ⟨hpos, start, hstart, hsome⟩ := begins_iff.mp hi
  rw [abbreviate?, List.findSome?_eq_none_iff] at h
  have hmem : (start, i) ∈ abbreviations.zipIdx 1 :=
    List.mk_mem_zipIdx_iff_le_and_getElem?_sub.mpr ⟨hpos, hstart⟩
  have hnone := h _ hmem
  rw [Option.map_eq_none_iff] at hnone
  rw [hnone] at hsome
  cases hsome

/-- A code of the table fits a byte. -/
theorem Begins.lt (h : Begins code uri) :
  code < 36
  := by
  obtain ⟨-, start, -, hstart, -⟩ := h
  apply (List.getElem?_eq_some_iff.mp hstart).1

/-- A URI is written with its code. -/
theorem exists_encode_eq (uri : String) :
  ∃ code rest, encode uri = code :: rest ∧ IsCodeOf code.toNat uri
  := by
  rw [encode]
  cases h : abbreviate? uri with
  | none =>
    refine ⟨_, _, rfl, ?_⟩
    right
    exact ⟨rfl, not_begins_of_abbreviate? h⟩
  | some pair =>
    obtain ⟨code, rest⟩ := pair
    refine ⟨_, _, rfl, ?_⟩
    have hcode := isCodeOf_of_abbreviate? h
    have hlt : code < 36 := by
      rcases hcode with ⟨hbegins, -⟩ | ⟨rfl, -⟩
      · apply hbegins.lt
      · decide
    rw [UInt8.toNat_ofNat', Nat.mod_eq_of_lt (by omega)]
    apply hcode

/-! ### Payloads that are read -/

/-- A payload is read as what its code stands for and then the text behind the code. -/
theorem decode_eq_ok_iff {p : Bytes} :
  decode p = .ok uri
    ↔ ∃ code start rest, p = code :: Utf8.encode rest ∧ expansion? code = some start
      ∧ uri = start ++ rest
  := by
  constructor
  · intro h
    cases p with
    | nil => cases h
    | cons code b =>
      rw [decode] at h
      split at h
      · cases h
      · cases h
      · next start rest hstart hrest =>
        injection h with h
        refine ⟨code, start, rest, ?_, hstart, h.symm⟩
        rw [Utf8.decode?_eq_some_iff.mp hrest]
  · rintro ⟨code, start, rest, rfl, hstart, rfl⟩
    rw [decode, hstart, Utf8.decode?_encode]

/-- A payload is read exactly if it is a code of the table and then UTF-8. -/
theorem exists_decode_eq_ok_iff {p : Bytes} :
  (∃ uri, decode p = .ok uri)
    ↔ ∃ code rest, p = code :: Utf8.encode rest ∧ code.toNat < 36
  := by
  have htable : ("" :: abbreviations).length = 36 := rfl
  simp only [decode_eq_ok_iff, expansion?, List.getElem?_eq_some_iff, htable]
  constructor
  · rintro ⟨uri, code, start, rest, hp, ⟨hlt, -⟩, -⟩
    exact ⟨code, rest, hp, hlt⟩
  · rintro ⟨code, rest, hp, hlt⟩
    exact ⟨_, code, _, rest, hp, ⟨hlt, rfl⟩, rfl⟩

/-- A payload that is read is written of its URI exactly if it has the code of the URI. -/
theorem encode_eq_iff_of_decode {code : UInt8} {b : Bytes} (h : decode (code :: b) = .ok uri) :
  encode uri = code :: b ↔ IsCodeOf code.toNat uri
  := by
  obtain ⟨code', b', hencode, hcode'⟩ := exists_encode_eq uri
  rw [hencode]
  constructor
  · intro heq
    injection heq with heq
    rw [← heq]
    apply hcode'
  · intro hcode
    obtain rfl : code' = code := UInt8.toNat_inj.mp (hcode'.unique hcode)
    have hencoded := decode_encode uri
    rw [hencode] at hencoded
    obtain ⟨_, start, rest, hb, hstart, rfl⟩ := decode_eq_ok_iff.mp h
    obtain ⟨_, start', rest', hb', hstart', happend⟩ := decode_eq_ok_iff.mp hencoded
    injection hb with hhead hb
    injection hb' with hhead' hb'
    subst hhead hhead' hb hb'
    obtain rfl : start = start' := Option.some.inj (hstart.symm.trans hstart')
    rw [String.append_right_inj] at happend
    rw [happend]

/-! ### Codes that are not written -/

/-- The abbreviations with the codes from `0x1E` on begin with the one with the code
`0x13`. -/
theorem Begins.urn (h : Begins code uri) (hcode : 0x1E ≤ code) :
  Begins 0x13 uri
  := by
  have hurn : ∀ i < 36, 0x1E ≤ i → ∀ start, ("" :: abbreviations)[i]? = some start →
      (dropStart? "urn:" start).isSome := by
    decide +kernel
  have hlt := h.lt
  obtain ⟨-, start, rest, hstart, rfl⟩ := h
  obtain ⟨middle, hmiddle⟩ := Option.isSome_iff_exists.mp (hurn code hlt hcode start hstart)
  obtain rfl := dropStart?_eq_some_iff.mp hmiddle
  refine ⟨by decide, "urn:", middle ++ rest, rfl, ?_⟩
  rw [String.append_assoc]

/-- The codes from `0x1E` on are not written. -/
theorem IsCodeOf.lt (h : IsCodeOf code uri) :
  code < 0x1E
  := by
  rcases h with ⟨hbegins, hleast⟩ | ⟨rfl, -⟩
  · by_contra hle
    have hle' := hleast 0x13 (hbegins.urn (by omega))
    omega
  · decide

/-- Every URI is read back from its payload, and a record is built of it unless the payload is
too long.  A payload is read exactly if it is a code of the table and then UTF-8.  What was
read is written with the same payload exactly if the code is the lowest one whose abbreviation
begins the URI, or zero if there is none; so the codes from `0x1E` to `0x23` are not
written. -/
theorem encode_exact :
  (∀ uri, decode (encode uri) = .ok uri
      ∧ ((encode uri).length < 0x80000000 →
        ∃ r, Record.buildUri uri = .ok r ∧ r.uri? = some uri))
    ∧ (∀ p, (∃ uri, decode p = .ok uri)
      ↔ ∃ code rest, p = code :: Utf8.encode rest ∧ code.toNat < 36)
    ∧ (∀ p uri, decode p = .ok uri →
      ∃ code rest, p = code :: rest ∧ (encode uri = p ↔ IsCodeOf code.toNat uri))
    ∧ ∀ uri, ∃ code rest, encode uri = code :: rest ∧ ¬ (0x1E ≤ code.toNat ∧ code.toNat ≤ 0x23)
  := by
  refine ⟨?_, fun p => exists_decode_eq_ok_iff, ?_, ?_⟩
  · intro uri
    refine ⟨decode_encode uri, ?_⟩
    intro hlength
    let f := PosterDraft.wellKnownFrame WellKnown.uri.type (encode uri)
    have hfits : f.Fits := Frame.fits_ofParts_iff.mpr ⟨by decide, by decide, hlength⟩
    use .ofFrame none f, PosterDraft.buildUri_eq_ok_iff.mpr ⟨hfits, rfl⟩
    apply Record.uri?_eq_some_iff.mpr
    apply Content.ofFrame_eq_uri_iff.mpr ⟨rfl, rfl, decode_encode uri⟩
  · intro p uri h
    obtain ⟨code, start, rest, rfl, -⟩ := decode_eq_ok_iff.mp h
    exact ⟨code, _, rfl, encode_eq_iff_of_decode h⟩
  · intro uri
    obtain ⟨code, rest, hencode, hcode⟩ := exists_encode_eq uri
    have hlt := hcode.lt
    exact ⟨code, rest, hencode, by omega⟩

/-- The rest of a URI completes a longer abbreviation, which has a lower code. -/
theorem encode_exact_www :
  let p : Bytes := 0x03 :: Utf8.encode "www.a"
  decode p = .ok "http://www.a" ∧ encode "http://www.a" ≠ p
    ∧ (encode "http://www.a").length < 0x80000000
    ∧ ∃ r, Record.buildUri "http://www.a" = .ok r ∧ r.uri? = some "http://www.a"
  := by
  intro p
  obtain ⟨hround, -, hcanonical, -⟩ := encode_exact
  have hp : decode p = .ok "http://www.a" := decode_eq_ok_iff.mpr ⟨0x03, _, _, rfl, rfl, rfl⟩
  have hlength : (encode "http://www.a").length < 0x80000000 := by decide +kernel
  refine ⟨hp, ?_, hlength, (hround _).2 hlength⟩
  obtain ⟨code, rest, hcode, hiff⟩ := hcanonical p _ hp
  injection hcode with hcode
  rw [ne_eq, hiff, ← hcode]
  intro h
  have hbegins : Begins 0x01 "http://www.a" := ⟨by decide, "http://www.", "a", rfl, rfl⟩
  rcases h with ⟨-, hleast⟩ | ⟨hzero, -⟩
  · exact absurd (hleast 0x01 hbegins) (by decide)
  · exact absurd hzero (by decide)

end Ndef.Uri
