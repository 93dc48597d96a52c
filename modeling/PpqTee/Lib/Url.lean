import Mathlib.Data.List.Basic

/-! Scheme and authority of a URL, as far as a prefix of it determines them. -/

structure Url where
  scheme : List Char
  authority : List Char
  rest : List Char
  deriving DecidableEq, Repr

namespace Url

def separator : List Char := [':', '/', '/']

/-- What stands before the first `://`, and what stands behind it. -/
def splitScheme : List Char → Option (List Char × List Char)
  | [] => none
  | c :: rest =>
    if separator <+: c :: rest then some ([], rest.drop 2)
    else (splitScheme rest).map fun split => (c :: split.1, split.2)

/-- Not one of the characters that end an authority. -/
def inAuthority (c : Char) : Bool := c ≠ '/' && c ≠ '?' && c ≠ '#' && c ≠ '\\'

def parse (url : List Char) : Option Url :=
  (splitScheme url).map fun split =>
    { scheme := split.1
      authority := split.2.takeWhile inAuthority
      rest := split.2.dropWhile inAuthority }

/-- `scheme://authority` with a non-empty authority, followed by nothing or by a path. -/
structure IsBase (base : Url) : Prop where
  authority : base.authority ≠ []
  path : base.rest = [] ∨ base.rest.head? = some '/'

theorem splitScheme_eq {url scheme after : List Char}
    (split : splitScheme url = some (scheme, after)) : url = scheme ++ (separator ++ after) := by
  induction url generalizing scheme with
  | nil => cases split
  | cons c rest ih =>
    unfold splitScheme at split
    by_cases starts : separator <+: c :: rest
    · rw [if_pos starts] at split
      cases split
      obtain ⟨after, whole⟩ := starts
      rw [← whole]
      cases whole
      rfl
    · rw [if_neg starts] at split
      obtain ⟨⟨front, back⟩, later, same⟩ := Option.map_eq_some_iff.mp split
      cases same
      exact congrArg (c :: ·) (ih later)

/-- The first separator stays the first one, whatever comes behind it. -/
theorem splitScheme_append {url scheme after : List Char}
    (split : splitScheme url = some (scheme, after)) (other : List Char) :
    splitScheme (scheme ++ (separator ++ other)) = some (scheme, other) := by
  induction url generalizing scheme with
  | nil => cases split
  | cons c rest ih =>
    have whole := splitScheme_eq split
    unfold splitScheme at split
    by_cases starts : separator <+: c :: rest
    · rw [if_pos starts] at split
      cases split
      rfl
    · rw [if_neg starts] at split
      obtain ⟨⟨front, back⟩, later, same⟩ := Option.map_eq_some_iff.mp split
      cases same
      have fresh : ¬ separator <+: c :: (front ++ (separator ++ other)) := by
        intro again
        apply starts
        rw [whole]
        rw [← List.append_assoc, ← List.cons_append] at again
        rw [← List.append_assoc, List.cons_append, ← List.cons_append]
        apply List.prefix_append_of_prefix
        apply List.prefix_of_prefix_length_le again (List.prefix_append _ _)
        rw [List.length_cons, List.length_append]
        omega
      rw [List.cons_append, splitScheme, if_neg fresh, ih later]
      rfl

theorem parse_append {url : List Char} {base : Url} (parsed : parse url = some base)
    {tail : List Char} (ends : tail.head? = some '/') :
    parse (base.scheme ++ (separator ++ (base.authority ++ tail))) =
      some { base with rest := tail } := by
  obtain ⟨⟨scheme, after⟩, split, same⟩ := Option.map_eq_some_iff.mp parsed
  cases same
  have inside : ∀ c ∈ after.takeWhile inAuthority, inAuthority c = true :=
    fun c member => List.all_eq_true.mp List.all_takeWhile c member
  have stops : tail.takeWhile inAuthority = [] ∧ tail.dropWhile inAuthority = tail := by
    cases tail with
    | nil => cases ends
    | cons c tail =>
      cases ends
      exact ⟨rfl, rfl⟩
  unfold parse
  rw [splitScheme_append split]
  simp only [Option.map_some, List.takeWhile_append_of_pos inside,
    List.dropWhile_append_of_pos inside, stops.1, stops.2, List.append_nil]

theorem parse_eq {url : List Char} {base : Url} (parsed : parse url = some base) :
    url = base.scheme ++ (separator ++ base.authority) ++ base.rest := by
  obtain ⟨⟨scheme, after⟩, split, same⟩ := Option.map_eq_some_iff.mp parsed
  cases same
  calc url = scheme ++ (separator ++ after) := splitScheme_eq split
    _ = scheme ++ (separator ++ (after.takeWhile inAuthority ++ after.dropWhile inAuthority)) := by
      rw [List.takeWhile_append_dropWhile]
    _ = _ := by rw [List.append_assoc, List.append_assoc]

/-- A URL that goes on with a slash where the base, less its trailing slashes, ends. -/
theorem parse_below {url trimmed : List Char} {base : Url} (parsed : parse url = some base)
    (isBase : IsBase base) {slashes : Nat} (trims : url = trimmed ++ List.replicate slashes '/')
    (more : List Char) :
    ∃ rest, parse (trimmed ++ '/' :: more) = some { base with rest } := by
  have inside : ∀ c ∈ base.authority, inAuthority c = true := by
    obtain ⟨split, _, same⟩ := Option.map_eq_some_iff.mp parsed
    cases same
    exact fun c member => List.all_eq_true.mp List.all_takeWhile c member
  have whole := parse_eq parsed
  rw [trims] at whole
  -- the slashes that were cut off do not reach into the authority
  have kept : ∃ path, trimmed = base.scheme ++ (separator ++ base.authority) ++ path ∧
      base.rest = path ++ List.replicate slashes '/' := by
    rcases List.append_eq_append_iff.mp whole with ⟨cut, front, back⟩ | ⟨path, front, back⟩
    · rcases List.eq_nil_or_concat cut with none | ⟨before, last, same⟩
      · rw [none] at front back
        exact ⟨[], by rw [front, List.append_nil, List.append_nil], back.symm⟩
      · have isSlash : last = '/' := by
          apply List.eq_of_mem_replicate (n := slashes)
          rw [back, same]
          simp
        have lasts := congrArg List.getLast? front
        have final := List.getLast?_eq_some_getLast isBase.authority
        rw [same, List.getLast?_append, List.getLast?_append, final] at lasts
        simp only [Option.some_or, List.concat_eq_append, List.getLast?_append,
          List.getLast?_singleton, Option.some.injEq] at lasts
        have legal := inside _ (List.mem_of_getLast? final)
        rw [lasts, isSlash] at legal
        cases legal
    · exact ⟨path, front, back⟩
  obtain ⟨path, front, back⟩ := kept
  have slash : (path ++ '/' :: more).head? = some '/' := by
    cases path with
    | nil => rfl
    | cons c path =>
      rcases isBase.path with none | some
      · rw [none] at back
        cases back
      · rw [back] at some
        exact some
  refine ⟨path ++ '/' :: more, ?_⟩
  rw [front, List.append_assoc, List.append_assoc, List.append_assoc]
  exact parse_append parsed slash

end Url
