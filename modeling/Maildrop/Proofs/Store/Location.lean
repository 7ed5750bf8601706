import Maildrop.Proofs.Text.Utf8
import Maildrop.Store.Location
import Mathlib.Data.List.TakeWhile

/-!
# Paths and URIs of databases

A path is taken for a path unless there is a NUL in it or it starts with `file:`
(`Maildrop.Store.Database.location_of_plain`). A path that starts so can be written as a URI, as can
every other one: with every octet of it escaped (`Maildrop.Store.Uri.ofPath`), it stands for the
place for which the path stands, as a path, whatever characters it has
(`Maildrop.Store.Database.location_ofPath`). So URIs name all files that paths name.
-/

namespace Maildrop.Store

open Database (location)

/-! ### Escaped octets -/

namespace Uri

/-- The escaped form of an octet. -/
def escape (b : UInt8) : Text :=
  ['%', Nat.digitChar (b.toNat / 16), Nat.digitChar (b.toNat % 16)]

/-- **The URI of a path.** -/
def ofPath (path : String) : String :=
  String.ofList ("file:".toList ++ (Utf8.encode path.toList).flatMap escape)

/-- The octets that end something in a URI. -/
def signs : Bytes := [0, Ascii.octet '#', Ascii.octet '/', Ascii.octet '?']

/-- A hexadecimal digit has its value, and ends nothing. -/
theorem digitChar_cases : ∀ n < 16, ∃ c : UInt8, Utf8.encodeChar (Nat.digitChar n) = [c] ∧
    Ascii.hexValue? c = some n.toUInt8 ∧ c ∉ signs := by
  intro n hn
  refine ⟨Ascii.octet (Nat.digitChar n), ?_⟩
  revert n
  decide

variable {b : UInt8} {s : Bytes}

/-- **An escaped octet is read as the octet**, if it is not NUL. -/
theorem unescape_escape (hb : b ≠ 0) :
    unescape (Utf8.encode (escape b) ++ s) = b :: unescape s := by
  have hlow := b.toNat_lt
  obtain ⟨c, hc, hcvalue, -⟩ := digitChar_cases (b.toNat / 16) (by omega)
  obtain ⟨d, hd, hdvalue, -⟩ := digitChar_cases (b.toNat % 16) (by omega)
  have hoctets : Utf8.encode (escape b) ++ s = 0x25 :: c :: d :: s := by
    simp [Utf8.encode, escape, hc, hd, show Utf8.encodeChar '%' = [0x25] from rfl]
  have hvalue : (b.toNat / 16).toUInt8 * 16 + (b.toNat % 16).toUInt8 = b := by
    rw [← UInt8.toNat_inj]
    simp only [Nat.toUInt8_eq, UInt8.toNat_add, UInt8.toNat_mul, UInt8.toNat_ofNat',
      UInt8.reduceToNat]
    omega
  rw [hoctets, unescape, hcvalue, hdvalue]
  dsimp only
  rw [if_neg, hvalue]
  rintro ⟨hhigh, hzero⟩
  rw [hhigh, hzero] at hvalue
  exact hb hvalue.symm

/-- Nothing ends in the octets of an escaped octet. -/
theorem not_mem_escape : ∀ x ∈ Utf8.encode (escape b), x ∉ signs := by
  have hlow := b.toNat_lt
  obtain ⟨c, hc, -, hcsign⟩ := digitChar_cases (b.toNat / 16) (by omega)
  obtain ⟨d, hd, -, hdsign⟩ := digitChar_cases (b.toNat % 16) (by omega)
  intro x hx
  simp only [Utf8.encode, escape, List.flatMap_cons, List.flatMap_nil, hc, hd,
    show Utf8.encodeChar '%' = [0x25] from rfl, List.cons_append, List.nil_append, List.mem_cons,
    List.not_mem_nil, or_false] at hx
  rcases hx with rfl | rfl | rfl
  · decide
  · exact hcsign
  · exact hdsign

/-- **Escaped octets are read back**, if none of them is NUL. -/
theorem unescape_flatMap_escape {path : Bytes} (h : 0 ∉ path) :
    unescape (Utf8.encode (path.flatMap escape)) = path := by
  induction path with
  | nil => rfl
  | cons b path ih =>
    rw [List.mem_cons, not_or] at h
    rw [List.flatMap_cons, Utf8.encode_append, unescape_escape (Ne.symm h.1), ih h.2]

theorem not_mem_flatMap_escape (path : Bytes) :
    ∀ x ∈ Utf8.encode (path.flatMap escape), x ∉ signs := by
  induction path with
  | nil => simp [Utf8.encode]
  | cons b path ih =>
    intro x hx
    rw [List.flatMap_cons, Utf8.encode_append, List.mem_append] at hx
    rcases hx with hx | hx
    · exact not_mem_escape x hx
    · exact ih x hx

/-- The octets of the URI of a path. -/
theorem encode_ofPath (path : String) : Utf8.encode (ofPath path).toList =
    word "file:" ++ Utf8.encode ((Utf8.encode path.toList).flatMap escape) := by
  have h : (ofPath path).toList =
      "file:".toList ++ (Utf8.encode path.toList).flatMap escape := String.toList_ofList
  exact (congrArg Utf8.encode h).trans (Utf8.encode_append ..)

/-! ### URIs in which nothing ends -/

/-- Octets without a slash name no host. -/
theorem withoutHost_of_not_mem (h : Ascii.octet '/' ∉ s) : withoutHost s = .ok s := by
  rw [withoutHost]
  rcases hstrip : Bytes.stripPrefix? (word "//") s with _ | rest
  · rfl
  · refine absurd ?_ h
    rw [Bytes.eq_append_of_stripPrefix? hstrip]
    exact List.mem_append_left _ (by decide)

/-- Octets without a question mark and a hash sign are a path, and no options. -/
theorem ofOctets_of_not_mem (hquestion : Ascii.octet '?' ∉ s) (hhash : Ascii.octet '#' ∉ s) :
    ofOctets s = ⟨unescape s, []⟩ := by
  have htake {mark : UInt8} (h : mark ∉ s) : s.takeWhile (· ≠ mark) = s := by
    refine List.takeWhile_eq_self_iff.mpr fun x hx => decide_eq_true ?_
    rintro rfl
    exact h hx
  have hdrop : s.dropWhile (· ≠ Ascii.octet '?') = [] := by
    refine List.dropWhile_eq_nil_iff.mpr fun x hx => decide_eq_true ?_
    rintro rfl
    exact hquestion hx
  rw [ofOctets, htake hhash, cutAt, htake hquestion, hdrop]
  rfl

/-- A URI without options stands for the place for which its path stands. -/
theorem location_of_path (name : String) :
    location ⟨Utf8.encode name.toList, []⟩ = .ok (.ofName name) := by
  have hdecode := Utf8.decode?_encode name.toList
  simp only [location, List.mapM_nil, pure_bind, List.contains_nil, List.reverse_nil,
    List.find?_nil, Bool.false_eq_true, if_false, reduceCtorEq, hdecode, String.ofList_toList]
  rfl

end Uri

/-! ### Paths -/

namespace Database

variable {path : String}

/-- **A path that does not look like a URI** is taken as it is. -/
theorem location_of_plain (hnul : '\x00' ∉ path.toList) (hfile : ¬"file:".toList <+: path.toList) :
    location path = .ok (.ofName path) := by
  have hzero : (Utf8.encode path.toList).contains 0 = false := by
    simpa using fun hmem => hnul (Utf8.zero_mem_encode_iff.mp hmem)
  rw [location, if_neg (Bool.eq_false_iff.mp hzero)]
  rcases hstrip : Bytes.stripPrefix? (Uri.word "file:") (Utf8.encode path.toList) with _ | rest
  · rfl
  · exact absurd (Utf8.isPrefix_of_encode (Bytes.eq_append_of_stripPrefix? hstrip)) hfile

/-- **The URI of a path stands for what the path stands for**, taken as it is. -/
theorem location_ofPath (h : '\x00' ∉ path.toList) :
    location (Uri.ofPath path) = .ok (.ofName path) := by
  have hoctets := Uri.encode_ofPath path
  have hsigns := Uri.not_mem_flatMap_escape (Utf8.encode path.toList)
  have hread := Uri.unescape_flatMap_escape fun hzero => h (Utf8.zero_mem_encode_iff.mp hzero)
  generalize Utf8.encode ((Utf8.encode path.toList).flatMap Uri.escape) = s at *
  have hzero : (Uri.word "file:" ++ s).contains 0 = false := by
    have hs : (0 : UInt8) ∉ s := fun hmem => hsigns 0 hmem (by decide)
    simpa using ⟨by decide, hs⟩
  rw [location, hoctets, if_neg (Bool.eq_false_iff.mp hzero), Bytes.stripPrefix?_append]
  dsimp only
  rw [Uri.withoutHost_of_not_mem fun hmem => hsigns _ hmem (by decide)]
  dsimp only
  rw [Uri.ofOctets_of_not_mem (fun hmem => hsigns _ hmem (by decide))
    fun hmem => hsigns _ hmem (by decide), hread, Uri.location_of_path]

end Database

end Maildrop.Store
