import Mathlib.Data.List.Basic

/-! Scanning a stream that arrives in pieces. A scanner looks at the front of its input
and takes a token off it, rejects it, or asks for more. Its decisions rest on the symbols
they name and on nothing behind them, and that is what makes scanning in pieces agree
with scanning everything at once. -/

namespace Incremental

/-- What one look at the front of the input decides, and on how many symbols. -/
inductive Turn (σ β ε : Type) where
  | wait
  | reject (needed : Nat) (e : ε) (s : σ)
  | token (size : Nat) (b : β) (s : σ)

variable {σ α β ε : Type}

def Turn.size : Turn σ β ε → Option Nat
  | .wait => none
  | .reject needed _ _ => some needed
  | .token size _ _ => some size

structure Scanner (σ α β ε : Type) where
  next : σ → List α → Turn σ β ε
  positive : ∀ {s w n}, (next s w).size = some n → 0 < n
  enough : ∀ {s w n}, (next s w).size = some n → n ≤ w.length
  decided : ∀ {s w w' n}, (next s w).size = some n → w'.take n = w.take n → next s w' = next s w

/-- Where a scan stopped: out of input, or at a rejection, with the number of symbols
up to and including those the rejection rests on. -/
inductive Ending (σ α ε : Type) where
  | more (s : σ) (rest : List α)
  | rejected (needed : Nat) (e : ε) (s : σ)

def Ending.after (n : Nat) : Ending σ α ε → Ending σ α ε
  | .more s rest => .more s rest
  | .rejected needed e s => .rejected (n + needed) e s

namespace Scanner

variable (S : Scanner σ α β ε)

/-- All the tokens of an input, and where the scan stopped. -/
def scan (s : σ) (w : List α) : List β × Ending σ α ε :=
  match _turn : S.next s w with
  | .wait => ([], .more s w)
  | .reject needed e s' => ([], .rejected needed e s')
  | .token size b s' =>
    let later := scan s' (w.drop size)
    (b :: later.1, later.2.after size)
termination_by w.length
decreasing_by
  have positive : 0 < size := S.positive (by rw [_turn]; rfl)
  have enough : size ≤ w.length := S.enough (by rw [_turn]; rfl)
  simp only [List.length_drop]
  omega

/-- `Reads S s w tokens s' rest`: these tokens come off the front of `w`, leaving `rest`. -/
inductive Reads : σ → List α → List β → σ → List α → Prop
  | nil (s : σ) (w : List α) : Reads s w [] s w
  | cons {s s₁ s₂ : σ} {w rest : List α} {b : β} {tokens : List β} {size : Nat} :
      S.next s w = .token size b s₁ → Reads s₁ (w.drop size) tokens s₂ rest →
      Reads s w (b :: tokens) s₂ rest

variable {S}

theorem scan_wait {s : σ} {w : List α} (turn : S.next s w = .wait) :
    S.scan s w = ([], .more s w) := by
  rw [scan]
  split <;> simp_all

theorem scan_reject {s s' : σ} {w : List α} {n : Nat} {e : ε}
    (turn : S.next s w = .reject n e s') : S.scan s w = ([], .rejected n e s') := by
  rw [scan]
  split <;> simp_all

theorem scan_token {s s' : σ} {w : List α} {n : Nat} {b : β}
    (turn : S.next s w = .token n b s') :
    S.scan s w = (b :: (S.scan s' (w.drop n)).1, (S.scan s' (w.drop n)).2.after n) := by
  rw [scan]
  split <;> simp_all

theorem next_append {s : σ} {w : List α} {n : Nat} (x : List α)
    (decides : (S.next s w).size = some n) : S.next s (w ++ x) = S.next s w := by
  have enough := S.enough decides
  apply S.decided decides
  rw [List.take_append_of_le_length enough]

/-- Input on which the scanner waits is a proper prefix of what it will decide on. -/
theorem length_lt_of_wait {s : σ} {w x : List α} {n : Nat} (waits : S.next s w = .wait)
    (decides : (S.next s (w ++ x)).size = some n) : w.length < n := by
  by_contra short
  have same : S.next s w = S.next s (w ++ x) :=
    S.decided decides (by rw [List.take_append_of_le_length (by omega)])
  rw [← same, waits] at decides
  cases decides

theorem Reads.append {s s' : σ} {w rest : List α} {tokens : List β}
    (reads : S.Reads s w tokens s' rest) (x : List α) :
    S.Reads s (w ++ x) tokens s' (rest ++ x) := by
  induction reads with
  | nil s w => exact .nil s _
  | @cons s s₁ s₂ w rest b tokens size turn _ ih =>
    have decides : (S.next s w).size = some size := by rw [turn]; rfl
    apply Reads.cons ((next_append x decides).trans turn)
    rwa [List.drop_append_of_le_length (S.enough decides)]

theorem Reads.trans {s s₁ s₂ : σ} {w w₁ w₂ : List α} {first later : List β}
    (reads : S.Reads s w first s₁ w₁) (more : S.Reads s₁ w₁ later s₂ w₂) :
    S.Reads s w (first ++ later) s₂ w₂ := by
  induction reads with
  | nil => exact more
  | cons turn _ ih => exact .cons turn (ih more)

theorem Reads.suffix {s s' : σ} {w rest : List α} {tokens : List β}
    (reads : S.Reads s w tokens s' rest) :
    ∃ n, n ≤ w.length ∧ tokens.length ≤ n ∧ rest = w.drop n := by
  induction reads with
  | nil s w => exact ⟨0, by simp, by simp, by simp⟩
  | @cons s s₁ s₂ w rest b tokens size turn _ ih =>
    have decides : (S.next s w).size = some size := by rw [turn]; rfl
    have positive := S.positive decides
    have enough := S.enough decides
    obtain ⟨n, bounded, counted, rfl⟩ := ih
    rw [List.length_drop] at bounded
    refine ⟨size + n, by omega, by simp only [List.length_cons]; omega, ?_⟩
    rw [List.drop_drop]

/-- Whatever is decided after an input on which the scanner waited rests on symbols behind it. -/
theorem Reads.beyond {s s' : σ} {buffer x rest : List α} {tokens : List β} {n : Nat}
    (waits : S.next s buffer = .wait) (reads : S.Reads s (buffer ++ x) tokens s' rest)
    (decides : (S.next s' rest).size = some n) :
    buffer.length < (buffer ++ x).length - rest.length + n := by
  cases reads with
  | nil =>
    have first := length_lt_of_wait waits decides
    omega
  | @cons _ _ _ _ _ _ _ size turn later =>
    have first : (S.next s (buffer ++ x)).size = some size := by rw [turn]; rfl
    have beyond := length_lt_of_wait waits first
    have enough := S.enough first
    obtain ⟨k, _, _, rfl⟩ := later.suffix
    simp only [List.length_drop]
    omega

theorem scan_of_reads {s s' : σ} {w rest : List α} {tokens : List β}
    (reads : S.Reads s w tokens s' rest) :
    S.scan s w = (tokens ++ (S.scan s' rest).1,
      (S.scan s' rest).2.after (w.length - rest.length)) := by
  induction reads with
  | nil s w => cases h : (S.scan s w).2 <;> simp [Ending.after, h, Prod.ext_iff]
  | @cons s s₁ s₂ w rest b tokens size turn reads ih =>
    have decides : (S.next s w).size = some size := by rw [turn]; rfl
    have enough := S.enough decides
    obtain ⟨n, bounded, -, same⟩ := reads.suffix
    rw [scan_token turn, ih]
    have shorter : rest.length ≤ (w.drop size).length := by
      rw [same, List.length_drop]
      omega
    rw [List.length_drop] at shorter ⊢
    cases (S.scan s₂ rest).2 with
    | more => rfl
    | rejected needed e s' =>
      simp only [Ending.after, List.cons_append, Prod.mk.injEq, Ending.rejected.injEq, true_and,
        and_true]
      omega

/-- A scan that runs out of input is a reading followed by a scan that does. -/
theorem scan_more_of_reads {s s₁ s' : σ} {w w₁ rest : List α} {first tokens : List β}
    (reads : S.Reads s w first s₁ w₁) :
    S.scan s w = (tokens, .more s' rest) ↔
      ∃ later, S.scan s₁ w₁ = (later, .more s' rest) ∧ tokens = first ++ later := by
  rw [scan_of_reads reads]
  obtain ⟨later, ending⟩ := S.scan s₁ w₁
  cases ending with
  | more s₂ rest₂ => simp [Ending.after, eq_comm, and_comm, and_assoc]
  | rejected needed e s₂ => simp [Ending.after]

theorem scan_of_rejected {s s₁ s₂ s' : σ} {w left rest : List α} {first tokens : List β}
    {needed : Nat} {e : ε} (reads : S.Reads s w first s₁ left)
    (rejects : S.next s₁ left = .reject needed e s₂) (x : List α) :
    S.scan s (w ++ x) ≠ (tokens, .more s' rest) := by
  have decides : (S.next s₁ left).size = some needed := by rw [rejects]; rfl
  rw [scan_of_reads (reads.append x), scan_reject ((next_append x decides).trans rejects)]
  simp [Ending.after]

/-- The two ways a scan ends, each with the reading that led there. -/
theorem scan_cases (S : Scanner σ α β ε) (s : σ) (w : List α) :
    (∃ tokens s' rest, S.scan s w = (tokens, .more s' rest) ∧ S.Reads s w tokens s' rest ∧
      S.next s' rest = .wait) ∨
    (∃ tokens s₁ rest needed e s', S.Reads s w tokens s₁ rest ∧
      S.next s₁ rest = .reject needed e s' ∧
      S.scan s w = (tokens, .rejected (w.length - rest.length + needed) e s')) := by
  fun_induction scan S s w with
  | case1 s w turn => exact .inl ⟨[], s, w, rfl, .nil s w, turn⟩
  | case2 s w needed e s' turn =>
    exact .inr ⟨[], s, w, needed, e, s', .nil s w, turn, by simp⟩
  | case3 s w size b s₁ turn later ih =>
    have enough : size ≤ w.length := S.enough (by rw [turn]; rfl)
    rcases ih with ⟨tokens, s', rest, ended, reads, waits⟩ |
      ⟨tokens, s₂, rest, needed, e, s', reads, rejects, ended⟩
    · exact .inl ⟨b :: tokens, s', rest, by simp [later, ended, Ending.after],
        .cons turn reads, waits⟩
    · obtain ⟨n, bounded, -, rfl⟩ := reads.suffix
      rw [List.length_drop] at bounded
      refine .inr ⟨b :: tokens, s₂, _, needed, e, s', .cons turn reads, rejects, ?_⟩
      simp only [later, ended, Ending.after, List.length_drop, Prod.mk.injEq, true_and,
        Ending.rejected.injEq, and_true]
      omega

theorem reads_of_scan {s s' : σ} {w rest : List α} {tokens : List β}
    (ended : S.scan s w = (tokens, .more s' rest)) : S.Reads s w tokens s' rest := by
  rcases scan_cases S s w with ⟨_, _, _, scanned, reads, -⟩ | ⟨_, _, _, _, _, _, _, _, scanned⟩
  all_goals
    rw [scanned] at ended
    cases ended
  exact reads

/-- Handing the input over chunk by chunk, keeping what is left over each time, until the
chunks run out or one is rejected. -/
def feedAll (S : Scanner σ α β ε) : σ → List α → List (List α) → List (List β) × Ending σ α ε
  | s, buffer, [] => ([], .more s buffer)
  | s, buffer, chunk :: chunks =>
    match S.scan s (buffer ++ chunk) with
    | (tokens, .more s' rest) =>
      let later := feedAll S s' rest chunks
      (tokens :: later.1, later.2)
    | (_, .rejected needed e s') => ([], .rejected needed e s')

/-- If the whole input scans without a rejection, so does every way of cutting it up, with
the same tokens and the same leftover. -/
theorem feedAll_more {s s' : σ} {buffer rest : List α} {chunks : List (List α)}
    {tokens : List β} (waits : S.next s buffer = .wait)
    (ended : S.scan s (buffer ++ chunks.flatten) = (tokens, .more s' rest)) :
    ∃ outs, S.feedAll s buffer chunks = (outs, .more s' rest) ∧ outs.flatten = tokens ∧
      outs.length = chunks.length := by
  induction chunks generalizing s buffer tokens with
  | nil =>
    rw [List.flatten_nil, List.append_nil, scan_wait waits] at ended
    obtain ⟨rfl, rfl, rfl⟩ := by simpa using ended
    exact ⟨[], rfl, rfl, rfl⟩
  | cons chunk chunks ih =>
    rw [List.flatten_cons, ← List.append_assoc] at ended
    rcases scan_cases S s (buffer ++ chunk) with
      ⟨first, s₁, left, scanned, reads, waits₁⟩ | ⟨first, s₁, left, needed, e, s₂, reads, rejects, -⟩
    · rw [scan_of_reads (reads.append _)] at ended
      cases tail : S.scan s₁ (left ++ chunks.flatten) with
      | mk later ending =>
        cases ending with
        | rejected => simp [tail, Ending.after] at ended
        | more s₃ rest₃ =>
          obtain ⟨rfl, rfl, rfl⟩ := by simpa [tail, Ending.after] using ended
          obtain ⟨outs, fed, together, counted⟩ := ih waits₁ tail
          refine ⟨first :: outs, ?_, by simp [together], by simp [counted]⟩
          simp [feedAll, scanned, fed]
    · -- a rejection inside the first chunk would have shown up in the whole input
      have decides : (S.next s₁ left).size = some needed := by rw [rejects]; rfl
      rw [scan_of_reads (reads.append _),
        scan_reject ((next_append chunks.flatten decides).trans rejects)] at ended
      simp [Ending.after] at ended

/-- If the whole input is rejected, the chunk that completes the symbols the rejection rests
on is the one refused, and the chunks before it yielded a prefix of the tokens. -/
theorem feedAll_rejected {s s' : σ} {buffer : List α} {chunks : List (List α)}
    {tokens : List β} {needed : Nat} {e : ε}
    (waits : S.next s buffer = .wait)
    (ended : S.scan s (buffer ++ chunks.flatten) = (tokens, .rejected needed e s')) :
    ∃ outs n, S.feedAll s buffer chunks = (outs, .rejected n e s') ∧
      outs.flatten <+: tokens ∧ outs.length < chunks.length ∧
      (buffer ++ (chunks.take outs.length).flatten).length < needed ∧
      needed ≤ (buffer ++ (chunks.take (outs.length + 1)).flatten).length := by
  induction chunks generalizing s buffer tokens needed with
  | nil =>
    rw [List.flatten_nil, List.append_nil, scan_wait waits] at ended
    simp at ended
  | cons chunk chunks ih =>
    rw [List.flatten_cons, ← List.append_assoc] at ended
    rcases scan_cases S s (buffer ++ chunk) with
      ⟨first, s₁, left, scanned, reads, waits₁⟩ | ⟨first, s₁, left, wanted, e₁, s₂, reads, rejects, scanned⟩
    · obtain ⟨k, bounded, -, rfl⟩ := reads.suffix
      rw [scan_of_reads (reads.append _)] at ended
      cases tail : S.scan s₁ ((buffer ++ chunk).drop k ++ chunks.flatten) with
      | mk later ending =>
        cases ending with
        | more => simp [tail, Ending.after] at ended
        | rejected m e₃ s₃ =>
          simp only [tail, Ending.after, Prod.mk.injEq, Ending.rejected.injEq] at ended
          obtain ⟨rfl, rfl, rfl, rfl⟩ := ended
          obtain ⟨outs, n, fed, initial, counted, before, upto⟩ := ih waits₁ tail
          refine ⟨first :: outs, n, by simp [feedAll, scanned, fed], ?_, ?_, ?_, ?_⟩
          · simpa using initial
          · simpa using counted
          · simp only [List.length_append, List.length_drop, List.length_cons, List.take_succ_cons,
              List.flatten_cons] at before bounded ⊢
            omega
          · simp only [List.length_append, List.length_drop, List.length_cons, List.take_succ_cons,
              List.flatten_cons] at upto bounded ⊢
            omega
    · have decides : (S.next s₁ left).size = some wanted := by rw [rejects]; rfl
      have beyond := Reads.beyond waits reads decides
      have enough := S.enough decides
      obtain ⟨k, bounded, -, rfl⟩ := reads.suffix
      rw [scan_of_reads (reads.append _),
        scan_reject ((next_append chunks.flatten decides).trans rejects)] at ended
      simp only [Ending.after, Prod.mk.injEq, Ending.rejected.injEq] at ended
      obtain ⟨rfl, rfl, rfl, rfl⟩ := ended
      refine ⟨[], (buffer ++ chunk).length - ((buffer ++ chunk).drop k).length + wanted,
        by simp [feedAll, scanned], by simp, by simp, ?_, ?_⟩
      · simp only [List.length_append, List.length_drop, List.take_zero, List.flatten_nil,
          List.length_nil] at beyond bounded ⊢
        omega
      · simp only [List.length_append, List.length_drop, List.take_succ_cons, List.take_zero,
          List.flatten_cons, List.flatten_nil, List.length_nil] at enough bounded ⊢
        omega

end Scanner

end Incremental
