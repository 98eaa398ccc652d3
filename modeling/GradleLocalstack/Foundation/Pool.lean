import Mathlib.Data.List.Basic
import Mathlib.Logic.Relation
import Mathlib.Tactic.Common

/-!
# Requests handled side by side

The handler of one request is a `Client`: it has ended, or it waits for the answer of a
service.  A `Pool` is a store with the clients of all the requests that ever arrived.  One
step of a pool is a step of one client or of the service it calls, whichever it may be, so a
run of a pool is an interleaving of its handlers.

A client that waits does not know what became of its call: the service may perform it
several times (the caller's library sends it again) before an answer or an error arrives.
-/

set_option autoImplicit false

namespace Foundation

/-- The handler of a request, as far as the services see it. -/
inductive Client (κ : Type) (ρ : κ → Type) (ε α : Type) where
  | returned (a : α)
  | thrown (e : ε)
  | calling (c : κ) (next : Except ε (ρ c) → Client κ ρ ε α)

namespace Client

variable {κ : Type} {ρ : κ → Type} {ε α β : Type}

/-- Sequencing: an exception of the first part ends the whole. -/
protected def bind : Client κ ρ ε α → (α → Client κ ρ ε β) → Client κ ρ ε β
  | returned a, f => f a
  | thrown e, _ => thrown e
  | calling c next, f => calling c fun answer => (next answer).bind f

/-- What a computation returns, and one after the other. -/
instance : Monad (Client κ ρ ε) where
  pure := returned
  bind := Client.bind

/-- Run the first client; an exception goes to the handler. -/
protected def tryCatch : Client κ ρ ε α → (ε → Client κ ρ ε α) → Client κ ρ ε α
  | returned a, _ => returned a
  | thrown e, h => h e
  | calling c next, h => calling c fun answer => (next answer).tryCatch h

/-- Exceptions are thrown and caught. -/
instance : MonadExceptOf ε (Client κ ρ ε) where
  throw := thrown
  tryCatch := Client.tryCatch

/-- Throw the error, or return the value. -/
def ofExcept : Except ε α → Client κ ρ ε α
  | .ok a => returned a
  | .error e => thrown e

/-- Call the service; its error is thrown. -/
def call (c : κ) : Client κ ρ ε (ρ c) := calling c ofExcept

/-- The client has returned a value. -/
def Finished (c : Client κ ρ ε α) : Prop := ∃ a, c = returned a

/-- The call whose answer the client waits for; none if it has ended. -/
def waitsFor : Client κ ρ ε α → Option κ
  | calling c _ => some c
  | _ => none

/-- A client that waits for a call has something to do with its answer. -/
theorem waitsFor_eq_some {c : Client κ ρ ε α} {k : κ} :
    c.waitsFor = some k ↔ ∃ next, c = calling k next := by
  constructor
  · intro h
    cases c with
    | returned a => cases h
    | thrown e => cases h
    | calling k' next =>
      cases h
      exact ⟨next, rfl⟩
  · rintro ⟨next, rfl⟩
    rfl

/-- A client that has returned waits for nothing. -/
theorem Finished.waitsFor_eq {c : Client κ ρ ε α} (h : c.Finished) : c.waitsFor = none := by
  obtain ⟨a, rfl⟩ := h
  rfl

end Client

/-- The store of the services, and every request that arrived with its client, in the order
of their arrival. -/
structure Pool (σ ι κ : Type) (ρ : κ → Type) (ε α : Type) where
  store : σ
  clients : List (ι × Client κ ρ ε α)

namespace Pool

variable {σ ι κ : Type} {ρ : κ → Type} {ε α : Type}

/-- The `i`-th request is `r`, and `c` is where its client stands. -/
def Entry (P : Pool σ ι κ ρ ε α) (i : ℕ) (r : ι) (c : Client κ ρ ε α) : Prop :=
  P.clients[i]? = some (r, c)

/-- The services have changed their store. -/
def withStore (P : Pool σ ι κ ρ ε α) (s : σ) : Pool σ ι κ ρ ε α := { P with store := s }

/-- A request has arrived. -/
def arrive (P : Pool σ ι κ ρ ε α) (r : ι) (c : Client κ ρ ε α) : Pool σ ι κ ρ ε α :=
  { P with clients := P.clients ++ [(r, c)] }

/-- The `i`-th client has gone on. -/
def advance (P : Pool σ ι κ ρ ε α) (i : ℕ) (c : Client κ ρ ε α) : Pool σ ι κ ρ ε α :=
  { P with clients := P.clients.modify i fun entry => (entry.1, c) }

section Entries

variable {P : Pool σ ι κ ρ ε α} {i j : ℕ} {r r' : ι} {c c' : Client κ ρ ε α} {s : σ}

/-- The store that was put in. -/
@[simp] theorem store_withStore : (P.withStore s).store = s := rfl

/-- An arrival leaves the store. -/
@[simp] theorem store_arrive : (P.arrive r c).store = P.store := rfl

/-- A client that goes on leaves the store. -/
@[simp] theorem store_advance : (P.advance i c).store = P.store := rfl

/-- A change of the store leaves the clients. -/
@[simp] theorem entry_withStore : (P.withStore s).Entry i r c ↔ P.Entry i r c := Iff.rfl

/-- A place has one request and one client. -/
theorem Entry.unique (h : P.Entry i r c) (h' : P.Entry i r' c') : r = r' ∧ c = c' := by
  unfold Entry at h h'
  rw [h] at h'
  exact Prod.mk.inj (Option.some.inj h')

/-- The entries after an arrival are those before it and the new one. -/
theorem entry_arrive : (P.arrive r c).Entry i r' c' ↔
    P.Entry i r' c' ∨ (i = P.clients.length ∧ r' = r ∧ c' = c) := by
  unfold Entry arrive
  rcases Nat.lt_trichotomy i P.clients.length with hlt | rfl | hgt
  · rw [List.getElem?_append_left hlt]
    constructor
    · exact Or.inl
    · rintro (h | ⟨rfl, -⟩)
      · exact h
      · omega
  · rw [List.getElem?_append_right (Nat.le_refl _), List.getElem?_eq_none (Nat.le_refl _)]
    simp [eq_comm]
  · rw [List.getElem?_eq_none (by simp; omega), List.getElem?_eq_none (by omega)]
    constructor
    · rintro ⟨⟩
    · rintro (⟨⟨⟩⟩ | ⟨rfl, -⟩)
      omega

/-- The entry that has gone on. -/
theorem Entry.advance_self (h : P.Entry i r c) : (P.advance i c').Entry i r c' := by
  unfold Entry at h ⊢
  simp [Pool.advance, h]

/-- The entries besides the one that has gone on. -/
theorem Entry.advance_of_ne (h : P.Entry j r c) (hne : i ≠ j) :
    (P.advance i c').Entry j r c := by
  unfold Entry at h ⊢
  simp [Pool.advance, h, hne]

/-- Where an entry stands after the `i`-th client has gone on. -/
theorem entry_of_advance (h : (P.advance i c').Entry j r c) :
    (j = i ∧ c = c' ∧ ∃ c₀, P.Entry i r c₀) ∨ (j ≠ i ∧ P.Entry j r c) := by
  unfold Entry at h ⊢
  by_cases hij : j = i
  · subst hij
    left
    simp only [Pool.advance, List.getElem?_modify, if_true, Option.map_eq_map] at h
    obtain ⟨entry, hentry, heq⟩ := Option.map_eq_some_iff.mp h
    obtain ⟨rfl, rfl⟩ := Prod.mk.inj heq
    exact ⟨rfl, rfl, entry.2, hentry⟩
  · right
    have hne : i ≠ j := Ne.symm hij
    simp only [Pool.advance, List.getElem?_modify, hne, if_false] at h
    exact ⟨hij, by simpa using h⟩

/-- A client that goes on leaves the requests as they are. -/
theorem exists_entry_advance :
    (∃ c, (P.advance i c').Entry j r c) ↔ ∃ c, P.Entry j r c := by
  constructor
  · rintro ⟨c, h⟩
    rcases entry_of_advance h with ⟨rfl, -, hold⟩ | ⟨-, hold⟩
    · exact hold
    · exact ⟨c, hold⟩
  · rintro ⟨c, h⟩
    by_cases hij : i = j
    · subst hij
      exact ⟨c', h.advance_self⟩
    · exact ⟨c, h.advance_of_ne hij⟩

end Entries

end Pool

/-- A server and the services it calls: how it handles a request, what a performed call
answers and leaves, which errors a call may meet, and which requests can arrive. -/
structure Site (σ ι κ : Type) (ρ : κ → Type) (ε α : Type) where
  handle : ι → Client κ ρ ε α
  Performs : (c : κ) → σ → ρ c → σ → Prop
  Fails : ε → Prop
  Admits : Pool σ ι κ ρ ε α → ι → Prop

namespace Site

variable {σ ι κ : Type} {ρ : κ → Type} {ε α : Type}

/-- One step of a pool. -/
inductive Step (S : Site σ ι κ ρ ε α) : Pool σ ι κ ρ ε α → Pool σ ι κ ρ ε α → Prop
  /-- A request arrives. -/
  | arrive {P : Pool σ ι κ ρ ε α} {r : ι} (h : S.Admits P r) : Step S P (P.arrive r (S.handle r))
  /-- A call is performed, and its client hears nothing of it. -/
  | perform {P : Pool σ ι κ ρ ε α} {i : ℕ} {r : ι} {c : κ}
      {next : Except ε (ρ c) → Client κ ρ ε α} {a : ρ c} {s : σ}
      (h : P.Entry i r (.calling c next)) (hs : S.Performs c P.store a s) :
      Step S P (P.withStore s)
  /-- A call is performed and answered. -/
  | answer {P : Pool σ ι κ ρ ε α} {i : ℕ} {r : ι} {c : κ}
      {next : Except ε (ρ c) → Client κ ρ ε α} {a : ρ c} {s : σ}
      (h : P.Entry i r (.calling c next)) (hs : S.Performs c P.store a s) :
      Step S P ((P.withStore s).advance i (next (.ok a)))
  /-- A call ends in an error. -/
  | fail {P : Pool σ ι κ ρ ε α} {i : ℕ} {r : ι} {c : κ}
      {next : Except ε (ρ c) → Client κ ρ ε α} {e : ε}
      (h : P.Entry i r (.calling c next)) (he : S.Fails e) :
      Step S P (P.advance i (next (.error e)))

/-- The pool is reached from the store without requests. -/
def Reachable (S : Site σ ι κ ρ ε α) (s : σ) : Pool σ ι κ ρ ε α → Prop :=
  Relation.ReflTransGen S.Step ⟨s, []⟩

/-- What a run leads to from what is reached. -/
theorem Reachable.trans {S : Site σ ι κ ρ ε α} {s : σ} {P P' : Pool σ ι κ ρ ε α}
    (h : S.Reachable s P) (hrun : Relation.ReflTransGen S.Step P P') : S.Reachable s P' :=
  Relation.ReflTransGen.trans h hrun

/-- **The invariant rule.**  What holds of the store without requests, what an arrival keeps,
what a performed call keeps and what a client keeps that goes on with an answer or an error
holds of every pool that is reached. -/
theorem Reachable.invariant {S : Site σ ι κ ρ ε α} {s : σ} (I : Pool σ ι κ ρ ε α → Prop)
    (hstart : I ⟨s, []⟩)
    (harrive : ∀ P r, S.Reachable s P → I P → S.Admits P r → I (P.arrive r (S.handle r)))
    (hperform : ∀ P i r c next a s', S.Reachable s P → I P → P.Entry i r (.calling c next) →
      S.Performs c P.store a s' →
      I (P.withStore s') ∧ I ((P.withStore s').advance i (next (.ok a))))
    (hfail : ∀ P i r c next e, S.Reachable s P → I P → P.Entry i r (.calling c next) →
      S.Fails e → I (P.advance i (next (.error e))))
    {P : Pool σ ι κ ρ ε α} (h : S.Reachable s P) : I P := by
  induction h with
  | refl => exact hstart
  | tail hreach hstep ih =>
    cases hstep with
    | arrive hadmits => exact harrive _ _ hreach ih hadmits
    | perform hentry hs => exact (hperform _ _ _ _ _ _ _ hreach ih hentry hs).1
    | answer hentry hs => exact (hperform _ _ _ _ _ _ _ hreach ih hentry hs).2
    | fail hentry he => exact hfail _ _ _ _ _ _ hreach ih hentry he

/-! ## Fewer requests -/

/-- The site at which a request arrives only if it meets a further condition. -/
def restrict (S : Site σ ι κ ρ ε α) (Meets : Pool σ ι κ ρ ε α → ι → Prop) :
    Site σ ι κ ρ ε α :=
  { S with Admits := fun P r => S.Admits P r ∧ Meets P r }

section Runs

variable {S : Site σ ι κ ρ ε α} {Meets : Pool σ ι κ ρ ε α → ι → Prop} {s : σ}
  {P P' : Pool σ ι κ ρ ε α} {i : ℕ} {r : ι}

/-- A step where fewer requests arrive is a step. -/
theorem Step.of_restrict (h : (S.restrict Meets).Step P P') : S.Step P P' := by
  cases h with
  | arrive hadmits => exact .arrive hadmits.1
  | perform hentry hs => exact .perform hentry hs
  | answer hentry hs => exact .answer hentry hs
  | fail hentry he => exact .fail hentry he

/-- What is reached where fewer requests arrive is reached. -/
theorem Reachable.of_restrict (h : (S.restrict Meets).Reachable s P) : S.Reachable s P := by
  induction h with
  | refl => exact .refl
  | tail _ hstep ih => exact ih.tail hstep.of_restrict

/-! ## Where a waiting client comes from -/

/-- A client that waits after a step waited before it, or its request has just arrived. -/
theorem Step.waited {c : Client κ ρ ε α} (h : S.Step P P') (hentry : P'.Entry i r c)
    (hwaits : c.waitsFor.isSome) :
    (∃ c', P.Entry i r c' ∧ c'.waitsFor.isSome) ∨ S.Admits P r := by
  cases h with
  | arrive hadmits =>
    rcases Pool.entry_arrive.mp hentry with hold | ⟨-, rfl, -⟩
    · exact .inl ⟨c, hold, hwaits⟩
    · exact .inr hadmits
  | perform _ _ => exact .inl ⟨c, hentry, hwaits⟩
  | answer hcalling _ =>
    rcases Pool.entry_of_advance hentry with ⟨rfl, -, c₀, hold⟩ | ⟨-, hold⟩
    · obtain ⟨rfl, rfl⟩ := Pool.Entry.unique hold hcalling
      exact .inl ⟨_, hcalling, rfl⟩
    · exact .inl ⟨c, hold, hwaits⟩
  | fail hcalling _ =>
    rcases Pool.entry_of_advance hentry with ⟨rfl, -, c₀, hold⟩ | ⟨-, hold⟩
    · obtain ⟨rfl, rfl⟩ := hold.unique hcalling
      exact .inl ⟨_, hcalling, rfl⟩
    · exact .inl ⟨c, hold, hwaits⟩

/-- A client that waits after a run waited before it, or its request has arrived since. -/
theorem waited_of_run (h : Relation.ReflTransGen S.Step P P') {c : Client κ ρ ε α}
    (hentry : P'.Entry i r c) (hwaits : c.waitsFor.isSome) :
    (∃ c', P.Entry i r c' ∧ c'.waitsFor.isSome) ∨
      ∃ Q, Relation.ReflTransGen S.Step P Q ∧ S.Admits Q r := by
  induction h generalizing c with
  | refl => exact .inl ⟨c, hentry, hwaits⟩
  | tail hrun hstep ih =>
    rcases hstep.waited hentry hwaits with ⟨c', hentry', hwaits'⟩ | hadmits
    · exact ih hentry' hwaits'
    · exact .inr ⟨_, hrun, hadmits⟩

end Runs

end Site

end Foundation
