import Mathlib.Data.List.Nodup
import GradleLocalstack.Foundation.Prog

/-!
# Dealing items to receivers

Items are dealt one after the other, each to all receivers in order, until a deal fails.
What the receivers have then are `Shares`: prefixes of the items, the earlier receivers
ahead of the later ones by at most one item.  The deal that failed says exactly which
(`Shares.cut`).
-/

set_option autoImplicit false

namespace Foundation

/-- How many of the items each of `m` receivers has. -/
structure Shares {α : Type} (m : ℕ) (items : List α) where
  length : ℕ → ℕ
  le : ∀ i, length i ≤ items.length
  antitone : ∀ i j, i ≤ j → length j ≤ length i
  skew : length 0 ≤ length (m - 1) + 1

namespace Shares

variable {α : Type} {m : ℕ} {items : List α} {x : α}

/-- What receiver number `i` has. -/
def of (p : Shares m items) (i : ℕ) : List α := items.take (p.length i)

/-- The items have been dealt. -/
def all : Shares m items where
  length _ := items.length
  le _ := Nat.le_refl _
  antitone _ _ _ := Nat.le_refl _
  skew := Nat.le_succ _

/-- The items before number `k` were there for all, and number `k` for the first `i` receivers. -/
def cut (i : ℕ) {k : ℕ} (hk : k < items.length) : Shares m items where
  length j := if j < i then k + 1 else k
  le j := by
    split <;> omega
  antitone a b hab := by
    by_cases hb : b < i
    · simp [hb, Nat.lt_of_le_of_lt hab hb]
    · rw [if_neg hb]
      split <;> omega
  skew := by
    split <;> split <;> omega

/-- When all items have been dealt, each receiver has all of them. -/
@[simp] theorem of_all (i : ℕ) : (all : Shares m items).of i = items := List.take_length

/-- What a receiver has after the deal of item number `k` failed. -/
theorem of_cut (i j : ℕ) {k : ℕ} (hk : k < items.length) :
    (cut i hk : Shares m items).of j = items.take (if j < i then k + 1 else k) := rfl

/-- A cut further on has the first item too. -/
theorem of_cut_cons (i j : ℕ) {k : ℕ} (hk : k < items.length) (hk' : k + 1 < (x :: items).length) :
    (cut i hk' : Shares m (x :: items)).of j = x :: (cut i hk : Shares m items).of j := by
  rw [of_cut, of_cut]
  split <;> rfl

end Shares

/-! ## The loops that deal -/

section Deal

variable {ω ε ρ α : Type} {send : ρ → α → Prog ω ε Unit} {received : ρ → ω → List α}
  {receivers : List ρ} {items : List α} {G : ω → Prop} {F : ρ → α → ε → ω → Prop} {w : ω}

/-- From `w` to `w'` each receiver has got its share. -/
def Dealt (receivers : List ρ) (received : ρ → ω → List α)
    (p : Shares receivers.length items) (w w' : ω) : Prop :=
  ∀ i (h : i < receivers.length),
    received receivers[i] w' = received receivers[i] w ++ p.of i

variable [DecidableEq ρ]

/-- What is asked of `send`: it keeps `G` and gives the item to the receiver, or it fails with
`F` and gives none. -/
def Gives (send : ρ → α → Prog ω ε Unit) (received : ρ → ω → List α) (G : ω → Prop)
    (F : ρ → α → ε → ω → Prop) (r : ρ) : Prop :=
  ∀ x w, G w → (send r x).wp
    (fun _ w' => G w' ∧ ∀ r', received r' w' = received r' w ++ if r' = r then [x] else [])
    (fun e w' => F r x e w' ∧ ∀ r', received r' w' = received r' w) w

/-- **One item** for all receivers, or for those before the one whose deal failed. -/
theorem wp_dealOne (hnodup : receivers.Nodup)
    (hsend : ∀ r ∈ receivers, Gives send received G F r) (x : α) (hG : G w) :
    (Prog.forEach (fun r => send r x) receivers).wp
      (fun _ w' => G w' ∧ ∀ i (h : i < receivers.length),
        received receivers[i] w' = received receivers[i] w ++ [x])
      (fun e w' => ∃ (n : ℕ) (hn : n < receivers.length), F receivers[n] x e w' ∧
        ∀ i (h : i < receivers.length),
          received receivers[i] w' = received receivers[i] w ++ if i < n then [x] else []) w := by
  -- the receivers in `rest` have not got the item yet
  let I : List ρ → ω → Prop := fun rest w' => G w' ∧ ∃ done, receivers = done ++ rest ∧
    ∀ i (h : i < receivers.length), received receivers[i] w' =
      received receivers[i] w ++ if i < done.length then [x] else []
  have hstart : I receivers w := by
    refine ⟨hG, [], rfl, ?_⟩
    intro i h
    rw [List.length_nil, if_neg (Nat.not_lt_zero i), List.append_nil]
  refine Prog.wp_conseq (Prog.wp_forEach I ?_ receivers w hstart) ?_
  · intro r rest w₁ hI
    obtain ⟨hG₁, done, hsplit, hdone⟩ := hI
    have hr : r ∈ receivers := by
      rw [hsplit]
      exact List.mem_append_right _ List.mem_cons_self
    have hlt : done.length < receivers.length := by
      rw [hsplit, List.length_append, List.length_cons]
      omega
    have hget : receivers[done.length] = r := by
      simp [hsplit]
    have hat : ∀ i (h : i < receivers.length), receivers[i] = r ↔ i = done.length := by
      intro i h
      rw [← hget]
      exact hnodup.getElem_inj_iff
    refine Prog.wp_mono (hsend r hr x w₁ hG₁) ?_ ?_
    · intro _ w₂ hw₂
      obtain ⟨hG₂, hgiven⟩ := hw₂
      refine ⟨hG₂, done ++ [r], ?_, ?_⟩
      · rw [hsplit, List.append_assoc, List.singleton_append]
      · intro i h
        rw [hgiven, hdone i h, List.append_assoc, List.length_append, List.length_singleton]
        congr 1
        by_cases heq : i = done.length
        · rw [if_pos ((hat i h).mpr heq), if_neg (by omega), if_pos (by omega)]
          rfl
        · rw [if_neg (fun hri => heq ((hat i h).mp hri)), List.append_nil]
          by_cases hbefore : i < done.length
          · rw [if_pos hbefore, if_pos (by omega)]
          · rw [if_neg hbefore, if_neg (by omega)]
    · intro e w₂ hw₂
      obtain ⟨hfailed, hsame⟩ := hw₂
      rw [← hget] at hfailed
      refine ⟨done.length, hlt, hfailed, ?_⟩
      intro i h
      rw [hsame, hdone i h]
  · intro _ w' hI
    obtain ⟨hG', done, hsplit, hdone⟩ := hI
    rw [List.append_nil] at hsplit
    refine ⟨hG', ?_⟩
    intro i h
    rw [hdone i h, if_pos (hsplit ▸ h)]

/-- **All items**, or those up to the deal that failed. -/
theorem wp_deal (hnodup : receivers.Nodup)
    (hsend : ∀ r ∈ receivers, Gives send received G F r) (items : List α) (hG : G w) :
    (Prog.forEach (fun x => Prog.forEach (fun r => send r x) receivers) items).wp
      (fun _ w' => G w' ∧
        Dealt receivers received (Shares.all : Shares receivers.length items) w w')
      (fun e w' => ∃ (i k : ℕ) (hi : i < receivers.length) (hk : k < items.length),
        F receivers[i] items[k] e w' ∧ Dealt receivers received (Shares.cut i hk) w w') w := by
  induction items generalizing w with
  | nil =>
    refine ⟨hG, ?_⟩
    intro i h
    exact (List.append_nil _).symm
  | cons x items ih =>
    rw [Prog.forEach, Prog.wp_bind]
    refine Prog.wp_mono (wp_dealOne hnodup hsend x hG) ?_ ?_
    · intro _ w₁ hw₁
      obtain ⟨hG₁, hone⟩ := hw₁
      refine Prog.wp_mono (ih hG₁) ?_ ?_
      · intro _ w' hw'
        obtain ⟨hG', hrest⟩ := hw'
        refine ⟨hG', ?_⟩
        intro i h
        rw [hrest i h, hone i h, Shares.of_all, Shares.of_all, List.append_assoc,
          List.singleton_append]
      · intro e w' hw'
        obtain ⟨i, k, hi, hk, hfailed, hrest⟩ := hw'
        have hk' : k + 1 < (x :: items).length := Nat.succ_lt_succ hk
        refine ⟨i, k + 1, hi, hk', hfailed, ?_⟩
        intro j h
        rw [hrest j h, hone j h, Shares.of_cut_cons i j hk hk', List.append_assoc,
          List.singleton_append]
    · intro e w' hw'
      obtain ⟨n, hn, hfailed, hone⟩ := hw'
      refine ⟨n, 0, hn, Nat.succ_pos _, hfailed, ?_⟩
      intro i h
      rw [hone i h, Shares.of_cut]
      split <;> rfl

end Deal

end Foundation
