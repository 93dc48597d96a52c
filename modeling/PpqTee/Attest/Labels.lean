import PpqTee.Attest.Domain
import PpqTee.Lib.Splitting
import Mathlib.Data.List.Forall2

/-! Name matching by labels: what the string comparisons of `dnsNameMatches` come to on the
labels between the dots. -/

namespace PpqTee.Attest

/-- A label that may stand in a host name. -/
structure PlainLabel (label : String) : Prop where
  nonempty : label ≠ ""
  ascii : isAscii label = true
  bare : '*' ∉ label.toList

/-- As many labels, and each the same but for the case of its letters. -/
def Alike (P H : List String) : Prop := List.Forall₂ (fun p h => eqIgnoreAsciiCase p h = true) P H

/-- Matching by labels: exactly, or with a wildcard for the whole first label and at least two
labels behind it. -/
inductive Covered (P H : List String) : Prop
  | literal (alike : Alike P H)
  | wildcard {rest : List String} {first : String} {tail : List String} (star : P = "*" :: rest)
      (long : 3 ≤ P.length) (plain : ∀ label ∈ rest, PlainLabel label) (host : H = first :: tail)
      (alike : Alike rest tail)

/-- `toLower` moves the letters A to Z, to where no other ASCII character of a name is. -/
theorem toLower_cases (c : Char) :
    c.toLower = c ∨ (65 ≤ c.toNat ∧ c.toNat ≤ 90 ∧ c.toLower.toNat = c.toNat + 32) := by
  unfold Char.toLower
  split
  · rename_i upper
    right
    have low : 65 ≤ c.val.toNat := upper.1
    have high : c.val.toNat ≤ 90 := upper.2
    refine ⟨low, high, ?_⟩
    show (c.val + 32).toNat = c.val.toNat + 32
    rw [UInt32.toNat_add]
    exact Nat.mod_eq_of_lt (by show c.val.toNat + 32 < 2 ^ 32; omega)
  · exact .inl rfl

theorem toLower_eq_iff {d : Char} (c : Char) (fixed : d.toNat < 65) : c.toLower = d ↔ c = d := by
  rcases toLower_cases c with same | ⟨low, high, moved⟩
  · rw [same]
  · constructor
    · intro lowered
      rw [lowered] at moved
      omega
    · intro same
      rw [same] at low
      omega

theorem toLower_ascii (c : Char) : c.toLower.toNat < 128 ↔ c.toNat < 128 := by
  rcases toLower_cases c with same | ⟨low, high, moved⟩
  · rw [same]
  · omega

theorem forall_split {Q : List Char → Prop} {s : String} :
    (∀ label ∈ split s '.', Q label.toList) ↔ ∀ part ∈ s.toList.splitOn '.', Q part := by
  unfold split
  rw [List.forall_mem_map]
  simp only [String.toList_ofList]

theorem isAscii_iff (s : String) : isAscii s = true ↔ ∀ c ∈ s.toList, c.toNat < 128 := by
  unfold isAscii
  simp only [List.all_eq_true, decide_eq_true_eq]

/-- What holds of the dot holds of all characters of a name when it does of those of its labels. -/
theorem forall_labels {p : Char → Prop} (dot : p '.') (s : String) :
    (∀ label ∈ split s '.', ∀ c ∈ label.toList, p c) ↔ ∀ c ∈ s.toList, p c := by
  rw [forall_split (Q := fun part => ∀ c ∈ part, p c), Splitting.forall_splitOn]
  constructor
  · intro others c member
    by_cases here : c = '.'
    · rw [here]
      exact dot
    · exact others c member here
  · intro all c member _
    exact all c member

/-- A plain name is one all of whose labels are plain. -/
theorem isPlainName_iff (s : String) :
    isPlainName s = true ↔ ∀ label ∈ split s '.', PlainLabel label := by
  have ascii := forall_labels (p := fun c => c.toNat < 128) (by decide) s
  have bare := forall_labels (p := fun c => c ≠ '*') (by decide) s
  have star : ∀ w : List Char, '*' ∉ w ↔ ∀ c ∈ w, c ≠ '*' := by
    intro w
    constructor
    · intro absent c member same
      exact absent (same ▸ member)
    · intro others member
      exact others '*' member rfl
  unfold isPlainName
  simp only [Bool.and_eq_true, decide_eq_true_eq, List.all_eq_true, isAscii_iff]
  constructor
  · intro name label member
    obtain ⟨⟨⟨_, low⟩, none⟩, full⟩ := name
    exact ⟨full label member, (isAscii_iff label).mpr (ascii.mpr low label member),
      (star _).mpr (bare.mpr ((star _).mp none) label member)⟩
  · intro plain
    refine ⟨⟨⟨?_, ?_⟩, ?_⟩, fun label member => (plain label member).nonempty⟩
    · intro empty
      subst empty
      exact (plain "" (by decide)).nonempty rfl
    · exact ascii.mp fun label member => (isAscii_iff label).mp (plain label member).ascii
    · exact (star _).mpr (bare.mp fun label member => (star _).mp (plain label member).bare)

def foldCase (s : String) : List Char := s.toList.map Char.toLower

theorem eqIgnoreAsciiCase_iff {s t : String} :
    eqIgnoreAsciiCase s t = true ↔ foldCase s = foldCase t := by
  unfold eqIgnoreAsciiCase
  exact beq_iff_eq

theorem eqIgnoreAsciiCase_symm {s t : String} (same : eqIgnoreAsciiCase s t = true) :
    eqIgnoreAsciiCase t s = true :=
  eqIgnoreAsciiCase_iff.mpr (eqIgnoreAsciiCase_iff.mp same).symm

/-- Names are equal but for the case of their letters when their labels are. -/
theorem alike_split (s t : String) :
    Alike (split s '.') (split t '.') ↔ eqIgnoreAsciiCase s t = true := by
  have dot : ∀ c : Char, c.toLower = '.' ↔ c = '.' := fun c => toLower_eq_iff c (by decide)
  have folded : ∀ u : String, (split u '.').map foldCase = (foldCase u).splitOn '.' := by
    intro u
    rw [foldCase, Splitting.splitOn_map dot, split, List.map_map]
    apply List.map_congr_left
    intro part _
    rw [Function.comp_apply, foldCase, String.toList_ofList]
  have parts : List.Forall₂ (· = ·) ((split s '.').map foldCase) ((split t '.').map foldCase) ↔
      List.Forall₂ (fun p h => foldCase p = foldCase h) (split s '.') (split t '.') :=
    List.forall₂_map_left_iff.trans List.forall₂_map_right_iff
  unfold Alike
  simp only [eqIgnoreAsciiCase_iff]
  rw [← parts, List.forall₂_eq_eq_eq, folded, folded]
  exact ⟨Splitting.splitOn_injective, fun same => by rw [same]⟩

theorem PlainLabel.of_alike {p h : String} (alike : eqIgnoreAsciiCase p h = true)
    (plain : PlainLabel h) : PlainLabel p := by
  rw [eqIgnoreAsciiCase_iff] at alike
  have image : ∀ c ∈ p.toList, ∃ d ∈ h.toList, d.toLower = c.toLower := by
    intro c member
    have lowered : c.toLower ∈ foldCase h := alike ▸ List.mem_map_of_mem member
    exact List.mem_map.mp lowered
  constructor
  · intro empty
    subst empty
    have none : h.toList = [] := List.map_eq_nil_iff.mp alike.symm
    exact plain.nonempty (String.toList_eq_nil_iff.mp none)
  · rw [isAscii_iff]
    intro c member
    obtain ⟨d, member', same⟩ := image c member
    rw [← toLower_ascii, ← same, toLower_ascii]
    exact (isAscii_iff h).mp plain.ascii d member'
  · intro member
    obtain ⟨d, member', same⟩ := image '*' member
    have star : d = '*' := (toLower_eq_iff d (by decide)).mp (same.trans (by decide))
    exact plain.bare (star ▸ member')

theorem Alike.plain {P H : List String} (alike : Alike P H)
    (plain : ∀ label ∈ H, PlainLabel label) : ∀ label ∈ P, PlainLabel label := by
  induction alike with
  | nil => simp
  | @cons p h P H same _ ih =>
    rw [List.forall_mem_cons] at plain ⊢
    exact ⟨.of_alike same plain.1, ih plain.2⟩

/-- `split_once` takes off the first label, if there is another. -/
theorem splitOnce_cases (s : String) :
    (splitOnce s '.' = none ∧ split s '.' = [s]) ∨
    ∃ first rest, splitOnce s '.' = some (first, rest) ∧ split s '.' = first :: split rest '.' := by
  unfold splitOnce split
  rcases Splitting.splitOn_cases '.' s.toList with ⟨absent, one⟩ | ⟨front, back, whole, first, parts⟩
  · refine .inl ⟨if_neg absent, ?_⟩
    rw [one, List.map_singleton, String.ofList_toList]
  · have member : '.' ∈ s.toList := by
      rw [whole]
      exact List.mem_append_right _ List.mem_cons_self
    have before : ∀ c ∈ front, decide (c ≠ '.') = true := by
      intro c inside
      rw [decide_eq_true_eq]
      exact fun same => first (same ▸ inside)
    refine .inr ⟨String.ofList front, String.ofList back, ?_, ?_⟩
    · rw [if_pos member, whole, List.takeWhile_append_of_pos before,
        List.dropWhile_append_of_pos before]
      simp
    · rw [parts, List.map_cons, String.toList_ofList]

/-- A name starts with `*.` when its first label is `*` and there is another. -/
theorem stripPrefix_cases (s : String) :
    (∃ suffix, stripPrefix s "*." = some suffix ∧ split s '.' = "*" :: split suffix '.') ∨
    (stripPrefix s "*." = none ∧ ∀ rest, split s '.' = "*" :: rest → rest = []) := by
  have star : "*.".toList = ['*', '.'] := rfl
  unfold stripPrefix
  rw [star]
  by_cases stripped : ['*', '.'] <+: s.toList
  · obtain ⟨back, whole⟩ := stripped
    refine .inl ⟨String.ofList back, ?_, ?_⟩
    · rw [if_pos ⟨back, whole⟩, ← whole]
      rfl
    · have front : '.' ∉ ['*'] := by decide
      have parts := List.splitOn_append_cons_self_of_not_mem front back
      unfold split
      rw [← whole, String.toList_ofList]
      exact congrArg (List.map String.ofList) parts
  · refine .inr ⟨if_neg stripped, ?_⟩
    intro rest labels
    unfold split at labels
    rcases Splitting.splitOn_cases '.' s.toList with ⟨_, one⟩ | ⟨front, back, whole, _, parts⟩
    · rw [one] at labels
      exact (List.cons.inj labels).2.symm
    · rw [parts] at labels
      have same : front = ['*'] := by
        rw [← String.toList_ofList (l := front), (List.cons.inj labels).1]
        rfl
      rw [whole, same] at stripped
      exact absurd ⟨back, rfl⟩ stripped

theorem covered_wildcard {P H S : List String} (starred : P = "*" :: S)
    (plain : ∀ label ∈ H, PlainLabel label) :
    Covered P H ↔ (∀ label ∈ S, PlainLabel label) ∧ 2 ≤ S.length ∧
      ∃ first tail, H = first :: tail ∧ Alike S tail := by
  subst starred
  constructor
  · intro covered
    cases covered with
    | literal alike =>
      -- a host would have to have the wildcard for a label itself
      have star := (alike.plain plain) "*" List.mem_cons_self
      exact absurd (by decide) star.bare
    | @wildcard rest first tail star long plain host alike =>
      obtain ⟨-, same⟩ := List.cons.inj star
      subst same
      exact ⟨plain, Nat.le_of_succ_le_succ long, first, tail, host, alike⟩
  · intro parts
    obtain ⟨plain, long, first, tail, host, alike⟩ := parts
    exact .wildcard rfl (Nat.succ_le_succ long) plain host alike

theorem covered_exact {P H : List String} (unstarred : ∀ rest, P = "*" :: rest → rest = []) :
    Covered P H ↔ Alike P H := by
  constructor
  · intro covered
    cases covered with
    | literal alike => exact alike
    | @wildcard rest first tail star long plain host alike =>
      rw [star, unstarred rest star] at long
      exact absurd long (by decide)
  · exact .literal

theorem dnsNameMatches_exact {pattern host : String} (kept : stripPrefix pattern "*." = none)
    (plain : isPlainName host = true) :
    dnsNameMatches pattern host = true ↔ Alike (split pattern '.') (split host '.') := by
  unfold dnsNameMatches
  rw [if_neg (not_not.mpr plain), kept, alike_split]
  simp only [Bool.and_eq_true, and_iff_right_iff_imp]
  intro same
  rw [isPlainName_iff]
  exact ((alike_split pattern host).mpr same).plain ((isPlainName_iff host).mp plain)

theorem dnsNameMatches_wildcard {pattern host suffix : String}
    (stripped : stripPrefix pattern "*." = some suffix) (plain : isPlainName host = true) :
    dnsNameMatches pattern host = true ↔
      (∀ label ∈ split suffix '.', PlainLabel label) ∧ 2 ≤ (split suffix '.').length ∧
        ∃ first tail, split host '.' = first :: tail ∧ Alike (split suffix '.') tail := by
  unfold dnsNameMatches
  rw [if_neg (not_not.mpr plain), stripped, ← isPlainName_iff]
  simp only
  by_cases ordinary : isPlainName suffix = true
  · rw [if_neg (not_not.mpr ordinary)]
    by_cases short : (split suffix '.').length < 2
    · rw [if_pos short]
      simp only [Bool.false_eq_true, false_iff]
      omega
    rw [if_neg short]
    simp only [ordinary, true_and, Nat.not_lt.mp short]
    rcases splitOnce_cases host with ⟨whole, one⟩ | ⟨first, rest, cut, labels⟩
    · rw [whole, one]
      simp only [Bool.false_eq_true, false_iff]
      intro parts
      obtain ⟨first, tail, same, alike⟩ := parts
      obtain ⟨-, none⟩ := List.cons.inj same
      rw [← none] at alike
      rw [List.forall₂_nil_right_iff.mp alike] at short
      exact short (by decide)
    · rw [cut, labels]
      simp only
      constructor
      · intro same
        exact ⟨first, _, rfl, (alike_split suffix rest).mpr (eqIgnoreAsciiCase_symm same)⟩
      · intro parts
        obtain ⟨first', tail, same, alike⟩ := parts
        rw [← (List.cons.inj same).2, alike_split] at alike
        exact eqIgnoreAsciiCase_symm alike
  · rw [if_pos ordinary]
    simp [ordinary]

theorem dnsNameMatches_iff (pattern host : String) :
    dnsNameMatches pattern host = true ↔
      (∀ label ∈ split host '.', PlainLabel label) ∧ Covered (split pattern '.') (split host '.') := by
  rw [← isPlainName_iff]
  by_cases plain : isPlainName host = true
  · have labels := (isPlainName_iff host).mp plain
    simp only [plain, true_and]
    rcases stripPrefix_cases pattern with ⟨suffix, stripped, starred⟩ | ⟨kept, unstarred⟩
    · rw [dnsNameMatches_wildcard stripped plain, covered_wildcard starred labels]
    · rw [dnsNameMatches_exact kept plain, covered_exact unstarred]
  · unfold dnsNameMatches
    rw [if_pos plain]
    simp [plain]

/-- A wildcard stands for one label, the first, and for the whole of it. -/
theorem Covered.one_label {P H : List String} (covered : Covered P H)
    (plain : ∀ label ∈ H, PlainLabel label) :
    P.length = H.length ∧ (∀ label ∈ P, '*' ∈ label.toList → label = "*") ∧
      ∀ label ∈ P.tail, '*' ∉ label.toList := by
  cases covered with
  | literal alike =>
    have bare := alike.plain plain
    exact ⟨alike.length_eq, fun label member star => absurd star (bare label member).bare,
      fun label member => (bare label (List.mem_of_mem_tail member)).bare⟩
  | wildcard star long bare host alike =>
    subst star host
    refine ⟨congrArg (· + 1) alike.length_eq, ?_, fun label member => (bare label member).bare⟩
    intro label member wild
    rcases List.mem_cons.mp member with first | later
    · exact first
    · exact absurd wild (bare label later).bare

/-- `dnsNameMatches` is RFC 6125 matching label by label, and a wildcard never matches no label,
several labels or part of one. -/
theorem dnsNameMatches_labels (pattern host : String) :
    (dnsNameMatches pattern host = true ↔
      (∀ label ∈ split host '.', PlainLabel label) ∧
        Covered (split pattern '.') (split host '.')) ∧
    (dnsNameMatches pattern host = true →
      (split pattern '.').length = (split host '.').length ∧
        (∀ label ∈ split pattern '.', '*' ∈ label.toList → label = "*") ∧
        ∀ label ∈ (split pattern '.').tail, '*' ∉ label.toList) := by
  refine ⟨dnsNameMatches_iff pattern host, ?_⟩
  intro matched
  obtain ⟨plain, covered⟩ := (dnsNameMatches_iff pattern host).mp matched
  exact covered.one_label plain

example : dnsNameMatches "*.Tinfoil.sh" "inference.tinfoil.SH" = true := by decide +kernel

end PpqTee.Attest
