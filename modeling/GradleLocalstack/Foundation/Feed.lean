import GradleLocalstack.Foundation.Service

/-!
# Feeds: listings that the service has cut into pages

The service divides a listing into pages as it likes: of any sizes, empty ones included.
Every page but the last names the token with which the next one is asked for, and the
first is asked for without a token.

A client walks through a feed in a loop that goes on while it is given a token
(`tokenLoop`).  If every round asks with the token of the last page, the loop sees the
pages once each and in order, whatever the division (`wp_tokenLoop`); a loop that is given
a token in every round does not end (`tokenLoop_diverges`).
-/

set_option autoImplicit false

namespace Foundation

/-- The tokens that name the pages of a feed. -/
structure Tokens (τ : Type) where
  encode : ℕ → τ
  decode : τ → Option ℕ
  decode_encode : ∀ n, decode (encode n) = some n

/-- The page number as the length of a string. -/
def Tokens.unary : Tokens String where
  encode n := String.ofList (List.replicate n 'x')
  decode token := some token.toList.length
  decode_encode n := by rw [String.toList_ofList, List.length_replicate]

/-- A page, and the token of the next one. -/
structure Listing (α τ : Type) where
  items : List α
  nextToken : Option τ
  deriving DecidableEq, Repr

/-- A listing and its division into pages. -/
structure Feed (α τ : Type) where
  pages : List (List α)
  pages_ne_nil : pages ≠ []
  tokens : Tokens τ

namespace Feed

variable {α τ : Type} (F : Feed α τ)

/-- What is listed, on whichever page. -/
def items : List α := F.pages.flatten

/-- Page number `n`. -/
def page (n : ℕ) : Listing α τ :=
  ⟨F.pages.getD n [], if n + 1 < F.pages.length then some (F.tokens.encode (n + 1)) else none⟩

/-- The token with which page number `n` is asked for. -/
def token : ℕ → Option τ
  | 0 => none
  | n + 1 => some (F.tokens.encode (n + 1))

/-- The page that is asked for, if there is one. -/
def answer : Option τ → Option (Listing α τ)
  | none => some (F.page 0)
  | some t => (F.tokens.decode t).bind fun n =>
    if n < F.pages.length then some (F.page n) else none

/-- What is listed on the pages before page number `n`. -/
def before (n : ℕ) : List α := (F.pages.take n).flatten

variable {F} {n : ℕ}

/-- A feed has a first page. -/
theorem length_pos : 0 < F.pages.length := List.length_pos_iff.mpr F.pages_ne_nil

/-- The token of a page of the feed is answered with that page. -/
theorem answer_token (h : n < F.pages.length) : F.answer (F.token n) = some (F.page n) := by
  cases n with
  | zero => rfl
  | succ n =>
    show (F.tokens.decode (F.tokens.encode (n + 1))).bind _ = _
    rw [F.tokens.decode_encode, Option.bind_some, if_pos h]

/-- A page that is not the last one gives the token of the next. -/
theorem nextToken_of_lt (h : n + 1 < F.pages.length) :
    (F.page n).nextToken = F.token (n + 1) := by
  unfold page token
  rw [if_pos h]

/-- The last page gives no token. -/
theorem nextToken_of_last (h : n + 1 = F.pages.length) : (F.page n).nextToken = none := by
  unfold page
  rw [if_neg (by omega)]

/-- What is listed on the last page. -/
def last (F : Feed α τ) : List α := F.pages.getLast F.pages_ne_nil

/-- What the page with this number holds. -/
theorem page_items (h : n < F.pages.length) : (F.page n).items = F.pages[n] := by
  simp [page, List.getD_eq_getElem?_getD, List.getElem?_eq_getElem h]

/-- What the page before the end holds is what the last one holds. -/
theorem page_items_of_last (h : n + 1 = F.pages.length) : (F.page n).items = F.last := by
  have hn : n < F.pages.length := by omega
  have hindex : F.pages.length - 1 = n := by omega
  rw [page_items hn, last, List.getLast_eq_getElem]
  simp only [hindex]

/-- An item of a page is an item of the feed. -/
theorem mem_items_of_mem_page (h : n < F.pages.length) {a : α} (ha : a ∈ (F.page n).items) :
    a ∈ F.items := by
  rw [page_items h] at ha
  exact List.mem_flatten_of_mem (List.getElem_mem h) ha

/-- A page names the next one exactly when it is not the last. -/
theorem nextToken_eq_none_iff (h : n < F.pages.length) :
    (F.page n).nextToken = none ↔ n + 1 = F.pages.length := by
  constructor
  · intro hnone
    by_contra hlast
    rw [nextToken_of_lt (by omega)] at hnone
    cases hnone
  · exact nextToken_of_last

/-- Nothing lies before the first page. -/
@[simp] theorem before_zero : F.before 0 = [] := rfl

/-- The items before the next page are those before this one and its own. -/
theorem before_succ (h : n < F.pages.length) :
    F.before (n + 1) = F.before n ++ (F.page n).items := by
  unfold before
  rw [page_items h, List.take_succ_eq_append_getElem h, List.flatten_append]
  simp

/-- All items lie before the end. -/
theorem before_length : F.before F.pages.length = F.items := by
  unfold before items
  rw [List.take_length]

end Feed

/-! ## The service -/

/-- A service each of whose requests asks for a page of one of its listings: which listing,
and the token.  A request changes nothing. -/
def Feed.service {σ κ ε τ : Type} {ρ : κ → Type} (find : (q : κ) → σ → Except ε (Feed (ρ q) τ))
    (invalidToken : ε) : Service σ (κ × Option τ) ε fun c => Listing (ρ c.1) τ where
  exec c s :=
    match find c.1 s with
    | .error e => (.error e, s)
    | .ok F =>
      match F.answer c.2 with
      | none => (.error invalidToken, s)
      | some l => (.ok l, s)

section Calls

variable {σ κ ε τ : Type} {ρ : κ → Type} {find : (q : κ) → σ → Except ε (Feed (ρ q) τ)}
  {invalidToken : ε} {q : κ} {n : ℕ} {w : World σ (κ × Option τ) ε}

/-- Without failures, asking for a page of a feed gives that page. -/
theorem wp_page_clear {F : Feed (ρ q) τ} (hfind : find q w.store = .ok F)
    (hn : n < F.pages.length) :
    (call (Feed.service find invalidToken) .clear (q, F.token n)).wp
      (fun l w' => l = F.page n ∧ w'.store = w.store ∧ w'.console = w.console)
      (fun _ _ => False) w := by
  have hx : (Feed.service find invalidToken).exec (q, F.token n) w.store =
      (.ok (F.page n), w.store) := by
    unfold Feed.service
    dsimp only
    rw [hfind]
    dsimp only
    rw [Feed.answer_token hn]
  apply Prog.wp_conseq (wp_call_clear hx)
  intro l w' hw'
  obtain ⟨rfl, rfl⟩ := hw'
  exact ⟨rfl, rfl, rfl⟩

end Calls

/-! ## The client -/

section Loops

variable {ω ε α β τ : Type}

/-- `do { … } while (token != null)`: a round is given what the last one left and the token
of its page, and says what it leaves and the next token. -/
def tokenLoop (body : β → Option τ → Prog ω ε (β × Option τ)) (rounds : ℕ) (b : β) :
    Prog ω ε β :=
  Prog.iterate (fun p => do
    let r ← body p.1 p.2
    if r.2.isSome then pure (.inl r) else pure (.inr r.1)) rounds (b, none)

variable {body : β → Option τ → Prog ω ε (β × Option τ)} {E : ε → ω → Prop}

/-- **The rule for the walk through a feed.**  `I n` holds when the pages before page number
`n` have been seen. -/
theorem wp_tokenLoop (F : Feed α τ) (I : ℕ → β → ω → Prop)
    (hstep : ∀ n b w, n < F.pages.length → I n b w → (body b (F.token n)).wp
      (fun r w' => r.2 = (F.page n).nextToken ∧ I (n + 1) r.1 w') E w)
    (rounds : ℕ) (hrounds : F.pages.length ≤ rounds) (b : β) (w : ω) (h : I 0 b w) :
    (tokenLoop body rounds b).wp (I F.pages.length) E w := by
  -- with `k` more rounds to follow, the coming one is for page number `length - k - 1`
  let J : ℕ → β × Option τ → ω → Prop := fun k p w =>
    ∃ n, n + k + 1 = F.pages.length ∧ p.2 = F.token n ∧ I n p.1 w
  have hpos : 0 < F.pages.length := F.length_pos
  have hstart : J (F.pages.length - 1) (b, none) w := ⟨0, by omega, rfl, h⟩
  apply Prog.wp_iterate J _ rounds (F.pages.length - 1) (by omega) (b, none) w hstart
  rintro k ⟨b₁, token⟩ w₁ ⟨n, hn, htoken, hI⟩
  cases htoken
  rw [Prog.wp_bind]
  apply Prog.wp_conseq (hstep n b₁ w₁ (by omega) hI)
  rintro ⟨b₂, next⟩ w₂ ⟨hnext, hI₂⟩
  dsimp only at hnext hI₂ ⊢
  cases k with
  | zero =>
    rw [Feed.nextToken_of_last hn] at hnext
    rw [hnext]
    have hlast : n + 1 = F.pages.length := hn
    exact hlast ▸ hI₂
  | succ k =>
    have hlt : n + 1 < F.pages.length := by omega
    rw [Feed.nextToken_of_lt hlt] at hnext
    rw [hnext]
    exact ⟨k, by omega, n + 1, by omega, rfl, hI₂⟩

/-- **A loop that is given a token in every round** uses up any bound. -/
theorem tokenLoop_diverges (I : β → ω → Prop)
    (hstep : ∀ b token w, I b w → (body b token).wp
      (fun r w' => r.2.isSome = true ∧ I r.1 w') (fun _ _ => False) w)
    (rounds : ℕ) (b : β) (w : ω) (h : I b w) :
    ∃ w', tokenLoop body rounds b w = (.diverged, w') := by
  apply Prog.iterate_diverges (fun p => I p.1) _ rounds (b, none) w h
  rintro ⟨b₁, token⟩ w₁ hI
  rw [Prog.wp_bind]
  apply Prog.wp_conseq (hstep b₁ token w₁ hI)
  intro r w₂ hw₂
  obtain ⟨hsome, hI₂⟩ := hw₂
  rw [if_pos hsome]
  exact ⟨r, rfl, hI₂⟩

end Loops

end Foundation
