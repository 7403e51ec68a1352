import CaptureLink.Proofs.Json.Token

/-
  Trees read back from their text, in every layout.  A tree
  is written as its tokens with blanks between them, and the
  machine that takes the tokens completes the tree.

  Main statements:
    * `Json.Tree.Legible.scanned`
    * `Json.Phase.completes`
    * `Json.Tree.ofChars?_write`
-/

namespace CaptureLink

namespace Json

namespace Tree

------------------------------------------------------------
-- Trees as tokens
------------------------------------------------------------

/- Every numeral in the tree is one. -/
inductive Legible : Tree → Prop where
| null : Legible .null
| bool (b : Bool) : Legible (.bool b)
| number
    {spelling : List Char}
    (hNumeral : (Numeral.ofChars? spelling).isSome = true) :
    Legible (.number spelling)
| string (text : Option String) : Legible (.string text)
| array
    {items : List Tree}
    (hItems : ∀ t ∈ items, Legible t) :
    Legible (.array items)
| object
    {members : List (Option String × Tree)}
    (hMembers : ∀ m ∈ members, Legible m.2) :
    Legible (.object members)

mutual

/- The tokens that spell a tree. -/
def tokens : Tree → List Token
| .null => [.null]
| .bool b => [.bool b]
| .number spelling => [.number spelling]
| .string text => [.string text]
| .array items => .openArray :: (itemTokens items ++ [.closeArray])
| .object members =>
    .openObject :: (memberTokens members ++ [.closeObject])

/- The items of an array with commas between them. -/
def itemTokens : List Tree → List Token
| [] => []
| [item] => item.tokens
| item :: next :: items =>
    item.tokens ++ .comma :: itemTokens (next :: items)

/- The members of an object with commas between them. -/
def memberTokens : List (Option String × Tree) → List Token
| [] => []
| [(name, value)] => .string name :: .colon :: value.tokens
| (name, value) :: next :: members =>
    .string name :: .colon ::
      (value.tokens ++ .comma :: memberTokens (next :: members))

end

------------------------------------------------------------
-- From text to tokens
------------------------------------------------------------

open Token (Scans)

theorem newline_blank (layout : Layout) :
    ∀ c ∈ layout.newline, Token.isBlank c = true := by
  cases layout with
  | compact => simp [Layout.newline]
  | lines depth =>
      intro c hc
      rcases List.mem_cons.mp hc with rfl | hIndent
      · rfl
      · rw [List.eq_of_mem_replicate hIndent]
        rfl

theorem scans_colon
    (layout : Layout)
    (rest : List Char) :
    Scans layout.colon [.colon] rest := by
  cases layout with
  | compact => exact Scans.of_next? rfl
  | lines depth =>
      have hBlank : Scans [' '] [] rest :=
        Scans.blanks rest (by simp [Token.isBlank])
      have hColon : Scans [':'] [.colon] ([' '] ++ rest) :=
        Scans.of_next? rfl
      exact hColon.append hBlank

/- A line break and a closing bracket continue no numeral. -/
theorem stops_newline_append
    {c : Char}
    (layout : Layout)
    (rest : List Char)
    (hc : Token.inNumeral c = false) :
    Token.Stops (layout.newline ++ c :: rest) := by
  intro d hd
  cases layout with
  | compact =>
      simp only [Layout.newline, List.nil_append, List.head?_cons,
        Option.some.injEq] at hd
      exact hd ▸ hc
  | lines depth =>
      simp only [Layout.newline, List.cons_append, List.head?_cons,
        Option.some.injEq] at hd
      exact hd ▸ rfl

theorem stops_comma (rest : List Char) :
    Token.Stops (',' :: rest) := by
  simp [Token.Stops, Token.inNumeral]

/- The tree is scanned as its tokens in every layout. -/
def Scanned (t : Tree) : Prop :=
  ∀ layout rest, Token.Stops rest →
    Scans (t.write layout) t.tokens rest

/- Items are scanned with the commas between them. -/
theorem scans_writeItems
    {items : List Tree}
    (hItems : ∀ t ∈ items, t.Scanned)
    (layout : Layout)
    {rest : List Char}
    (hRest : Token.Stops rest) :
    Scans (writeItems layout items) (itemTokens items) rest := by
  induction items with
  | nil => exact Scans.nil rest
  | cons item items ih =>
      have hItem : item.Scanned := hItems item (by simp)
      have hBreak (behind : List Char) :
          Scans layout.newline [] behind :=
        Scans.blanks behind (newline_blank layout)
      cases items with
      | nil =>
          rw [writeItems, itemTokens]
          exact (hBreak _).append (hItem layout rest hRest)
      | cons next items =>
          have hComma (behind : List Char) :
              Scans [','] [.comma] behind :=
            Scans.of_next? rfl
          have hBehind :
              Scans (writeItems layout (next :: items))
                (itemTokens (next :: items)) rest :=
            ih fun t ht => hItems t (by simp [ht])
          rw [writeItems, itemTokens]
          · exact (hBreak _).append
              ((hItem layout _ (stops_comma _)).append
                ((hComma _).append hBehind))
          · simp

/- Members are scanned with their keys. -/
theorem scans_writeMembers
    {members : List (Option String × Tree)}
    (hMembers : ∀ m ∈ members, m.2.Scanned)
    (layout : Layout)
    {rest : List Char}
    (hRest : Token.Stops rest) :
    Scans (writeMembers layout members) (memberTokens members)
      rest := by
  induction members with
  | nil => exact Scans.nil rest
  | cons m members ih =>
      obtain ⟨name, value⟩ := m
      have hValue : value.Scanned :=
        hMembers (name, value) (by simp)
      have hKey (behind : List Char) :
          Scans (layout.newline ++ (stringText name ++ layout.colon))
            [.string name, .colon] behind :=
        (Scans.blanks _ (newline_blank layout)).append
          ((Scans.of_next? (Token.next?_stringText name _)).append
            (scans_colon layout behind))
      cases members with
      | nil =>
          have hWhole := (hKey _).append (hValue layout rest hRest)
          rw [List.append_assoc, List.append_assoc] at hWhole
          exact hWhole
      | cons next members =>
          have hComma (behind : List Char) :
              Scans [','] [.comma] behind :=
            Scans.of_next? rfl
          have hBehind :
              Scans (writeMembers layout (next :: members))
                (memberTokens (next :: members)) rest :=
            ih fun m hm => hMembers m (by simp [hm])
          have hWhole :=
            (hKey _).append
              ((hValue layout _ (stops_comma _)).append
                ((hComma _).append hBehind))
          rw [List.append_assoc, List.append_assoc] at hWhole
          rw [writeMembers, memberTokens]
          · exact hWhole
          · simp

/- A container is scanned between its brackets. -/
theorem scans_bracketed
    {c d : Char}
    {t u : Token}
    {inside : List Char}
    {ts : List Token}
    (layout : Layout)
    (rest : List Char)
    (hOpen :
      ∀ behind, Token.next? (c :: behind) = some (t, behind))
    (hClose :
      ∀ behind, Token.next? (d :: behind) = some (u, behind))
    (hInside : Scans inside ts (layout.newline ++ d :: rest)) :
    Scans (c :: inside ++ layout.newline ++ [d]) (t :: (ts ++ [u]))
      rest := by
  have hStart :
      Scans [c] [t] (inside ++ (layout.newline ++ d :: rest)) :=
    Scans.of_next? (hOpen _)
  have hEnd : Scans (layout.newline ++ [d]) [u] rest :=
    (Scans.blanks _ (newline_blank layout)).append
      (Scans.of_next? (hClose _))
  have hTail :
      Scans (inside ++ (layout.newline ++ [d])) (ts ++ [u])
        rest := by
    apply Scans.append _ hEnd
    rwa [List.append_assoc]
  have hWhole :
      Scans ([c] ++ (inside ++ (layout.newline ++ [d])))
        ([t] ++ (ts ++ [u])) rest := by
    apply Scans.append _ hTail
    rwa [List.append_assoc, List.append_assoc]
  rw [List.cons_append, List.cons_append, List.append_assoc]
  exact hWhole

/- A legible tree is scanned as its tokens. -/
theorem Legible.scanned
    {t : Tree}
    (hLegible : Legible t) :
    t.Scanned := by
  intro layout rest hRest
  induction hLegible generalizing layout rest with
  | null => exact Scans.of_next? rfl
  | bool b =>
      cases b
      · exact Scans.of_next? rfl
      · exact Scans.of_next? rfl
  | number hNumeral =>
      exact Scans.of_next? (Token.next?_number hNumeral hRest)
  | string text =>
      exact Scans.of_next? (Token.next?_stringText text rest)
  | @array items hItems ih =>
      cases items with
      | nil =>
          have hOpen : Scans ['['] [.openArray] ([']'] ++ rest) :=
            Scans.of_next? rfl
          exact hOpen.append (Scans.of_next? rfl)
      | cons item items =>
          exact scans_bracketed layout rest (fun _ => rfl)
            (fun _ => rfl)
            (scans_writeItems ih layout.deeper
              (stops_newline_append layout rest rfl))
  | @object members hMembers ih =>
      cases members with
      | nil =>
          have hOpen :
              Scans ['\x7b'] [.openObject] (['\x7d'] ++ rest) :=
            Scans.of_next? rfl
          exact hOpen.append (Scans.of_next? rfl)
      | cons m members =>
          exact scans_bracketed layout rest (fun _ => rfl)
            (fun _ => rfl)
            (scans_writeMembers ih layout.deeper
              (stops_newline_append layout rest rfl))

end Tree

------------------------------------------------------------
-- From tokens to trees
------------------------------------------------------------

namespace Phase

/- Tokens are taken one after the other. -/
theorem run?_append
    (phase : Phase)
    (ts us : List Token) :
    phase.run? (ts ++ us) =
      (phase.run? ts).bind fun next => next.run? us := by
  induction ts generalizing phase with
  | nil => rfl
  | cons t ts ih =>
      rw [List.cons_append, run?, run?]
      cases phase.step? t with
      | none => rfl
      | some next => exact ih next

theorem run?_append_of
    {phase middle : Phase}
    {ts : List Token}
    (us : List Token)
    (hFront : phase.run? ts = some middle) :
    phase.run? (ts ++ us) = middle.run? us := by
  rw [run?_append, hFront, Option.bind_some]

/- The tokens complete the tree wherever a value is expected. -/
def Completes (t : Tree) : Prop :=
  ∀ outer, (Phase.value outer).run? t.tokens = some (.done t outer)

/- Items complete an array that has been opened. -/
theorem run?_itemTokens
    {items : List Tree}
    (before : List Tree)
    (item : Tree)
    (outer : List Container)
    (hItems : ∀ t ∈ item :: items, Completes t) :
    (Phase.value (.array before :: outer)).run?
        (Tree.itemTokens (item :: items) ++ [.closeArray]) =
      some
        (.done (.array (before.reverse ++ item :: items))
          outer) := by
  induction items generalizing before item with
  | nil =>
      rw [Tree.itemTokens,
        run?_append_of _ (hItems item (by simp) _)]
      simp [run?, step?, proceed?]
  | cons next items ih =>
      rw [Tree.itemTokens, List.append_assoc,
        run?_append_of _ (hItems item (by simp) _)]
      rw [List.cons_append, run?]
      simp only [step?, proceed?]
      rw [ih (item :: before) next
        (fun t ht => hItems t (List.mem_cons_of_mem _ ht))]
      simp

/- Members complete an object that has been opened. -/
theorem run?_memberTokens
    {members : List (Option String × Tree)}
    (before : List (Option String × Tree))
    (m : Option String × Tree)
    (outer : List Container)
    (hMembers : ∀ m' ∈ m :: members, Completes m'.2) :
    (Phase.key before outer).run?
        (Tree.memberTokens (m :: members) ++ [.closeObject]) =
      some
        (.done (.object (before.reverse ++ m :: members))
          outer) := by
  induction members generalizing before m with
  | nil =>
      obtain ⟨name, value⟩ := m
      have hValue : Completes value :=
        hMembers (name, value) (by simp)
      rw [Tree.memberTokens, List.cons_append, List.cons_append,
        run?]
      simp only [step?]
      rw [run?]
      simp only [step?]
      rw [run?_append_of _ (hValue _)]
      simp [run?, step?, proceed?]
  | cons next members ih =>
      obtain ⟨name, value⟩ := m
      have hValue : Completes value :=
        hMembers (name, value) (by simp)
      rw [Tree.memberTokens, List.cons_append, List.cons_append,
        run?]
      simp only [step?]
      rw [run?]
      simp only [step?]
      rw [List.append_assoc, run?_append_of _ (hValue _),
        List.cons_append, run?]
      simp only [step?, proceed?]
      rw [ih ((name, value) :: before) next
        (fun m' hm => hMembers m' (List.mem_cons_of_mem _ hm))]
      simp

/- Where an array may end, a value may begin as well. -/
theorem run?_arrayStart
    {t : Token}
    (ts : List Token)
    (outer : List Container)
    (hOpen : t ≠ .closeArray) :
    (Phase.arrayStart outer).run? (t :: ts) =
      (Phase.value (.array [] :: outer)).run? (t :: ts) := by
  cases t
  case closeArray => exact absurd rfl hOpen
  all_goals rfl

/- No tree begins with the end of an array. -/
theorem exists_tokens_eq_cons (t : Tree) :
    ∃ first behind,
      t.tokens = first :: behind ∧ first ≠ .closeArray := by
  cases t <;> exact ⟨_, _, rfl, by simp⟩

theorem itemTokens_eq_cons
    (item : Tree)
    (items : List Tree) :
    ∃ first behind,
      Tree.itemTokens (item :: items) = first :: behind ∧
        first ≠ .closeArray := by
  rcases exists_tokens_eq_cons item with
    ⟨first, behind, hTokens, hFirst⟩
  cases items with
  | nil => exact ⟨first, behind, hTokens, hFirst⟩
  | cons next items =>
      refine ⟨first,
        behind ++ .comma :: Tree.itemTokens (next :: items), ?_,
        hFirst⟩
      rw [Tree.itemTokens, hTokens, List.cons_append]

/- The tokens of a legible tree complete it. -/
theorem completes
    {t : Tree}
    (hLegible : t.Legible) :
    Completes t := by
  intro outer
  induction hLegible generalizing outer with
  | null => rfl
  | bool b => rfl
  | number hNumeral => rfl
  | string text => rfl
  | @array items hItems ih =>
      rw [Tree.tokens, run?]
      simp only [step?, begin?]
      cases items with
      | nil => rfl
      | cons item items =>
          rcases itemTokens_eq_cons item items with
            ⟨first, behind, hTokens, hFirst⟩
          have hRun := run?_itemTokens [] item outer ih
          rw [hTokens] at hRun ⊢
          rw [List.cons_append, run?_arrayStart _ _ hFirst]
          exact hRun
  | @object members hMembers ih =>
      rw [Tree.tokens, run?]
      simp only [step?, begin?]
      cases members with
      | nil => rfl
      | cons m members =>
          have hRun := run?_memberTokens [] m outer ih
          cases members <;> exact hRun

end Phase

namespace Tree

/-
  Writing a tree and reading its text gives the tree, on one
  line as well as on many.
-/
theorem ofChars?_write
    {t : Tree}
    (hLegible : Legible t)
    (layout : Layout) :
    ofChars? (t.write layout) = some t := by
  have hScan : Token.scan? (t.write layout) = some t.tokens :=
    (hLegible.scanned layout [] (by simp [Token.Stops])).scan?_eq
  rw [ofChars?, hScan, Option.bind_some, ofTokens?,
    Phase.completes hLegible]

end Tree

end Json

end CaptureLink
