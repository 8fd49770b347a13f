import UnsafeCensus.Proofs.Attribute.Decorations
import UnsafeCensus.Proofs.Census.Counting
import UnsafeCensus.Proofs.Tree.Edit

/-!
# Edits that a census hardly sees

Comments that fill no field may be left out of a tree, and tokens that no rule asks for may be
turned into `unsafe`. Whatever a census reads off a node is the same after such an edit, but for the
marks of the items: they can be gained, by turned tokens only, and are never lost.
-/

namespace UnsafeCensus

-- ---------------------------------------------------------------------------
-- Edits of trees
-- ---------------------------------------------------------------------------

def Node.asUnsafe (d : Node) : Node := { d with kind := "unsafe" }

/-- Turn what lies at the chosen positions into marks. -/
def Edit.marking (chosen : Position → Bool) : Edit :=
  fun p d => some (if chosen p then d.asUnsafe else d)

namespace Tree

/-- The kinds of nodes other than marks that some rule of the census asks for. -/
def unmarkedKinds : List String :=
  ["trait_item", "impl_item", "mod_item", "function_item", "function_signature_item",
    "declaration_list", "block", "unsafe_block", "expression_statement", "function_modifiers",
    "attribute", "attribute_item", "inner_attribute_item", "line_comment", "block_comment"]
  ++ nonStatementKinds

/-- The kinds of nodes that some rule of the census asks for. -/
def testedKinds : List String :=
  "unsafe" :: unmarkedKinds

/-- A token of a kind that no rule of the census asks for. -/
structure IsIdleToken (t : Tree) : Prop where
  childless : t.children = []
  unnamed : t.named = false
  untested : t.kind ∉ testedKinds

theorem isIdleToken_iff {t : Tree} :
    t.IsIdleToken ↔ t.children.isEmpty = true ∧ t.named = false ∧ t.kind ∉ testedKinds := by
  rw [List.isEmpty_iff]
  exact ⟨fun h => ⟨h.childless, h.unnamed, h.untested⟩, fun h => ⟨h.1, h.2.1, h.2.2⟩⟩

instance (t : Tree) : Decidable t.IsIdleToken :=
  decidable_of_iff _ isIdleToken_iff.symm

/-- A comment that fills no field of its parent. -/
structure IsLooseComment (t : Tree) : Prop where
  comment : t.isComment
  fieldless : t.data.field = none

theorem isLooseComment_iff {t : Tree} :
    t.IsLooseComment ↔ t.isComment = true ∧ t.data.field = none :=
  ⟨fun h => ⟨h.comment, h.fieldless⟩, fun h => ⟨h.1, h.2⟩⟩

instance (t : Tree) : Decidable t.IsLooseComment :=
  decidable_of_iff _ isLooseComment_iff.symm

theorem IsLooseComment.kind_beq {c : Tree} (h : c.IsLooseComment) {k : String}
    (hk : k ∉ ["line_comment", "block_comment"]) : (c.kind == k) = false := by
  refine beq_eq_false_iff_ne.mpr ?_
  rintro rfl
  exact hk (by simpa using isComment_iff.mp h.comment)

/-- What may become of a node: a loose comment may be left out and, with `marking`, an idle token
may turn into a mark. -/
def Allows (marking : Bool) (t : Tree) : Option Node → Prop
  | none => t.IsLooseComment
  | some d => d = t.data ∨ marking ∧ t.IsIdleToken ∧ d = t.data.asUnsafe

end Tree

/-- The edit does to each node what may become of it. -/
def Edit.Mild (marking : Bool) (e : Edit) (t : Tree) : Prop :=
  ∀ p n, t.at? p = some n → n.Allows marking (e p n.data)

/-- Something that can only be gained, and only where tokens are turned into marks. -/
def Gains (marking : Bool) (before after : Bool) : Prop :=
  (before = true → after = true) ∧ (marking = false → after = before)

theorem Gains.refl (marking b : Bool) : Gains marking b b :=
  ⟨fun h => h, fun _ => rfl⟩

theorem Gains.or {marking a b a' b' : Bool} (h : Gains marking a b) (h' : Gains marking a' b') :
    Gains marking (a || a') (b || b') := by
  refine ⟨?_, fun hm => by rw [h.2 hm, h'.2 hm]⟩
  simp only [Bool.or_eq_true]
  exact Or.imp h.1 h'.1

namespace Tree

variable {marking : Bool}

/-- The second tree is a mild edit of the first. -/
def Resembles (marking : Bool) (t u : Tree) : Prop :=
  ∃ e : Edit, e.Mild marking t ∧ t.edited? e = some u

namespace Resembles

variable {t u : Tree}

theorem data_cases (h : t.Resembles marking u) :
    u.data = t.data ∨ marking ∧ t.IsIdleToken ∧ u.data = t.data.asUnsafe := by
  obtain ⟨e, hmild, hedit⟩ := h
  have hroot := hmild [] t rfl
  rw [(edited?_eq_some.mp hedit).1] at hroot
  exact hroot

theorem children (h : t.Resembles marking u) :
    Thinned (Resembles marking) IsLooseComment t.children u.children := by
  obtain ⟨e, hmild, hedit⟩ := h
  have hbelow (i : Nat) (c : Tree) (hc : t.children[i]? = some c) :
      (e.inside i).Mild marking c := by
    intro p n hn
    exact hmild (i :: p) n (at?_cons_eq_some.mpr ⟨c, hc, hn⟩)
  rw [(edited?_eq_some.mp hedit).2]
  refine (thinned_editedAll e t.children).imp ?_ ?_
  · rintro c d ⟨i, hc, hd⟩
    exact ⟨e.inside i, hbelow i c hc, hd⟩
  · rintro c ⟨i, hc, hnone⟩
    have hroot := hbelow i c hc [] c rfl
    rwa [edited?_eq_none.mp hnone] at hroot

-- ---------------------------------------------------------------------------
-- What shows of a node itself
-- ---------------------------------------------------------------------------

/-- A question about kinds that takes all idle tokens for marks has the same answer. -/
theorem kind_asks (h : t.Resembles marking u) (asks : String → Bool)
    (hasks : ∀ k, k ∉ testedKinds → asks k = asks "unsafe") : asks u.kind = asks t.kind := by
  rcases h.data_cases with hsame | ⟨-, htoken, hturned⟩
  · rw [Tree.kind, hsame, Tree.kind]
  · rw [hasks _ htoken.untested, Tree.kind, hturned, Node.asUnsafe]

theorem kind_beq (h : t.Resembles marking u) {k : String} (hk : k ∈ unmarkedKinds) :
    (u.kind == k) = (t.kind == k) := by
  refine h.kind_asks (· == k) ?_
  intro j hj
  have hne : j ≠ k := fun heq => hj (heq ▸ List.mem_cons_of_mem _ hk)
  have hmark : "unsafe" ∉ unmarkedKinds := by decide
  have hmark' : "unsafe" ≠ k := fun heq => hmark (heq ▸ hk)
  simp [hne, hmark']

theorem named_eq (h : t.Resembles marking u) : u.named = t.named := by
  rcases h.data_cases with hsame | ⟨-, -, hturned⟩
  · rw [Tree.named, hsame, Tree.named]
  · rw [Tree.named, hturned, Tree.named, Node.asUnsafe]

theorem field_eq (h : t.Resembles marking u) : u.data.field = t.data.field := by
  rcases h.data_cases with hsame | ⟨-, -, hturned⟩
  · rw [hsame]
  · rw [hturned, Node.asUnsafe]

theorem text_eq (h : t.Resembles marking u) (source : List UInt8) :
    u.text source = t.text source := by
  rcases h.data_cases with hsame | ⟨-, -, hturned⟩
  · rw [Tree.text, hsame, Tree.text]
  · rw [Tree.text, hturned, Tree.text, Node.asUnsafe]

theorem isComment_eq (h : t.Resembles marking u) : u.isComment = t.isComment := by
  simp [isComment, h.kind_beq (k := "line_comment") (by decide),
    h.kind_beq (k := "block_comment") (by decide)]

theorem isDecoration_eq (h : t.Resembles marking u) : u.isDecoration = t.isDecoration := by
  rw [isDecoration, isDecoration, h.isComment_eq, h.kind_beq (by decide)]

theorem isFunctionLike_eq (h : t.Resembles marking u) : u.isFunctionLike = t.isFunctionLike := by
  simp [isFunctionLike, h.kind_beq (k := "function_item") (by decide),
    h.kind_beq (k := "function_signature_item") (by decide)]

-- ---------------------------------------------------------------------------
-- What shows of a node through its children
-- ---------------------------------------------------------------------------

/-- Children with a property that edits keep and comments do not have. -/
theorem filter_children (h : t.Resembles marking u) (has : Tree → Bool)
    (hkept : ∀ c d : Tree, c.Resembles marking d → has d = has c)
    (hcomment : ∀ c : Tree, c.IsLooseComment → has c = false) :
    List.Forall₂ (Resembles marking) (t.children.filter has) (u.children.filter has) :=
  h.children.filter hkept hcomment

theorem find?_children (h : t.Resembles marking u) (has : Tree → Bool)
    (hkept : ∀ c d : Tree, c.Resembles marking d → has d = has c)
    (hcomment : ∀ c : Tree, c.IsLooseComment → has c = false) :
    Option.Rel (Resembles marking) (t.children.find? has) (u.children.find? has) := by
  have hfound := h.filter_children has hkept hcomment
  rw [← List.head?_filter, ← List.head?_filter]
  generalize t.children.filter has = cs, u.children.filter has = ds at hfound ⊢
  cases hfound with
  | nil => exact .none
  | cons head _ => exact .some head

theorem any_children_eq (h : t.Resembles marking u) (has : Tree → Bool)
    (hkept : ∀ c d : Tree, c.Resembles marking d → has d = has c)
    (hcomment : ∀ c : Tree, c.IsLooseComment → has c = false) :
    u.children.any has = t.children.any has := by
  have hfound := h.find?_children has hkept hcomment
  rw [← List.isSome_find?, ← List.isSome_find?]
  generalize t.children.find? has = c, u.children.find? has = d at hfound ⊢
  cases hfound with
  | none => rfl
  | some _ => rfl

/-- A mark among the children stays, and one more needs a turned token. -/
theorem gains_any_unsafe (h : t.Resembles marking u) :
    Gains marking (t.children.any fun c => c.kind == "unsafe")
      (u.children.any fun c => c.kind == "unsafe") := by
  constructor
  · intro hmark
    obtain ⟨c, hc, hkind⟩ := List.any_eq_true.mp hmark
    rcases h.children.dropped_or_exists hc with hcomment | ⟨d, hd, hcd⟩
    · rw [hcomment.kind_beq (by decide)] at hkind
      cases hkind
    · refine List.any_eq_true.mpr ⟨d, hd, ?_⟩
      rcases hcd.data_cases with hsame | ⟨-, -, hturned⟩
      · rwa [Tree.kind, hsame]
      · rw [Tree.kind, hturned, Node.asUnsafe]
        rfl
  · intro hmarking
    refine h.any_children_eq _ ?_ ?_
    · intro c d hcd
      rcases hcd.data_cases with hsame | ⟨hturns, -⟩
      · rw [Tree.kind, hsame, Tree.kind]
      · rw [hmarking] at hturns
        cases hturns
    · intro c hcomment
      exact hcomment.kind_beq (by decide)

theorem gains_isMarkedUnsafe (h : t.Resembles marking u) :
    Gains marking t.isMarkedUnsafe u.isMarkedUnsafe := by
  unfold isMarkedUnsafe
  rw [h.isFunctionLike_eq]
  cases t.isFunctionLike with
  | false => exact h.gains_any_unsafe
  | true =>
    have hmodifiers := h.find?_children (fun c => c.kind == "function_modifiers")
      (fun _ _ hcd => hcd.kind_beq (by decide))
      (fun _ hcomment => hcomment.kind_beq (by decide))
    simp only [if_true]
    generalize t.children.find? _ = m, u.children.find? _ = m' at hmodifiers ⊢
    cases hmodifiers with
    | none => exact Gains.refl marking false
    | some hcd => exact hcd.gains_any_unsafe

theorem wrapsUnsafeBlock_eq (h : t.Resembles marking u) :
    u.wrapsUnsafeBlock = t.wrapsUnsafeBlock := by
  have hspoken := h.filter_children (fun c => !c.isComment && c.named)
    (fun _ _ hcd => by rw [hcd.isComment_eq, hcd.named_eq])
    (fun _ hcomment => by rw [hcomment.comment]; rfl)
  unfold wrapsUnsafeBlock namedChildren
  rw [List.filter_filter, List.filter_filter, h.kind_beq (by decide)]
  generalize t.children.filter _ = cs, u.children.filter _ = ds at hspoken ⊢
  cases hspoken with
  | nil => rfl
  | cons head tail =>
    cases tail with
    | nil => simp only [head.kind_beq (k := "unsafe_block") (by decide)]
    | cons _ _ => rfl

theorem isStatement_eq (h : t.Resembles marking u) : u.isStatement = t.isStatement := by
  have hdeclares : nonStatementKinds.contains u.kind = nonStatementKinds.contains t.kind := by
    refine h.kind_asks (nonStatementKinds.contains ·) ?_
    intro k hk
    have hunlisted : k ∉ nonStatementKinds :=
      fun hmem => hk (List.mem_cons_of_mem _ (List.mem_append_right _ hmem))
    simpa [hunlisted] using (by decide : "unsafe" ∉ nonStatementKinds)
  have hblock := h.kind_beq (k := "unsafe_block") (by decide)
  simp only [isStatement, h.named_eq, hdeclares, bne, hblock, h.wrapsUnsafeBlock_eq]

theorem statementCount_eq (h : t.Resembles marking u) : u.statementCount = t.statementCount := by
  have hcomment (c : Tree) (hc : c.IsLooseComment) : c.isStatement = false := by
    rcases isComment_iff.mp hc.comment with heq | heq <;> simp [isStatement, heq, nonStatementKinds]
  have hstatements := h.filter_children isStatement (fun _ _ hcd => hcd.isStatement_eq) hcomment
  rw [statementCount, statementCount, List.countP_eq_length_filter,
    List.countP_eq_length_filter, hstatements.length_eq]

-- ---------------------------------------------------------------------------
-- Attributes and fields
-- ---------------------------------------------------------------------------

variable (source : List UInt8)

theorem ofNode?_eq (h : t.Resembles marking u) :
    Attribute.ofNode? source u = Attribute.ofNode? source t := by
  have hfound := h.find?_children
    (fun c => decide (c.named = true ∧ (c.kind == "attribute") = true))
    (fun _ _ hcd => by rw [hcd.named_eq, hcd.kind_beq (by decide)])
    (fun _ hcomment => by simp [hcomment.kind_beq (k := "attribute") (by decide)])
  unfold Attribute.ofNode? namedChildren
  rw [List.find?_filter, List.find?_filter, h.kind_beq (by decide)]
  generalize t.children.find? _ = c, u.children.find? _ = d at hfound ⊢
  cases hfound with
  | none => rfl
  | some hcd => simp only [hcd.text_eq source]

theorem decoration_eq (h : t.Resembles marking u) : u.decoration source = t.decoration source := by
  rw [decoration, decoration, h.ofNode?_eq, h.kind_beq (by decide)]

theorem innerAttributes_eq (h : t.Resembles marking u) :
    u.innerAttributes source = t.innerAttributes source := by
  have hfound := h.filter_children
    (fun c => c.kind == Attribute.innerKind && c.named)
    (fun _ _ hcd => by rw [hcd.named_eq, hcd.kind_beq (by decide)])
    (fun _ hcomment => by rw [hcomment.kind_beq (by decide), Bool.false_and])
  unfold innerAttributes namedChildren
  rw [List.filter_filter, List.filter_filter]
  generalize t.children.filter _ = cs, u.children.filter _ = ds at hfound ⊢
  induction hfound with
  | nil => rfl
  | cons head _ ih => rw [List.filterMap_cons, List.filterMap_cons, head.ofNode?_eq, ih]

theorem childByField?_rel (h : t.Resembles marking u) (name : String) :
    Option.Rel (Resembles marking) (t.childByField? name) (u.childByField? name) := by
  refine h.find?_children _ ?_ ?_
  · intro c d hcd
    rw [hcd.field_eq]
  · intro c hcomment
    rw [hcomment.fieldless]
    rfl

theorem moduleName_eq (h : t.Resembles marking u) :
    Census.moduleName source u = Census.moduleName source t := by
  have hname := h.childByField?_rel "name"
  unfold Census.moduleName
  generalize t.childByField? "name" = c, u.childByField? "name" = d at hname ⊢
  cases hname with
  | none => rfl
  | some hcd => simp only [hcd.text_eq source]

end Resembles

end Tree

end UnsafeCensus
