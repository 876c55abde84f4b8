import Inquiry.Proofs.NormalForm
import Inquiry.Statement.Node
import Inquiry.Statement.Render

/-!
# The text of the same statement

The text of a statement is put together from texts of its parts, and lower case
goes through every way of doing so: it goes through appending, through commas
and through parentheses, as long as the parentheses are put in the same places.
Whether there are parentheses depends on the form of a part alone, and the form
is kept by the normal form. So the text of a statement and the text of its
normal form differ in the case of names at most, and the names of parameters are
the same one by one. Literals are written alike, for the text of a decimal is
that of its normal form.
-/

namespace Inquiry

open Text (lowerAll)

/-! ## Lower case of composed texts -/

theorem Text.lowerAll_append (s t : String) : lowerAll (s ++ t) = lowerAll s ++ lowerAll t := by
  rw [lowerAll, String.toList_append, List.flatMap_append, lowerAll, lowerAll]

namespace Statement

theorem lowerAll_grouped (needed : Bool) (s : String) :
    lowerAll (grouped needed s)
      = if needed then lowerAll "(" ++ lowerAll s ++ lowerAll ")" else lowerAll s := by
  rw [grouped]
  split
  · rw [Text.lowerAll_append, Text.lowerAll_append]
  · rfl

theorem lowerAll_commas (ss : List String) :
    lowerAll (commas ss) = (lowerAll ", ").intercalate (ss.map lowerAll) := by
  induction ss with
  | nil => rfl
  | cons s rest ih =>
      cases rest with
      | nil => rw [commas, String.intercalate_singleton, List.map_singleton,
          List.intercalate_singleton]
      | cons t rest =>
          rw [commas, String.intercalate_cons_cons, ← commas, Text.lowerAll_append,
            Text.lowerAll_append, ih]
          simp only [List.map_cons, List.intercalate_cons_cons]

/-! ## Expressions and conditions -/

theorem Name.lowerAll_normal (n : Name) : lowerAll n.normal.text = lowerAll n.text :=
  n.folded_normal

theorem Literal.text_normal (l : Literal) : l.normal.text = l.text := by
  cases l with
  | constant v text h => rfl
  | period kind => rfl

theorem Expr.hasSpaces_normal (e : Expr) : e.normal.hasSpaces = e.hasSpaces := by
  cases e <;> simp only [Expr.normal, Expr.hasSpaces]

theorem Expr.isDefaultTable_normal (e : Expr) : e.normal.isDefaultTable = e.isDefaultTable := by
  cases e <;> simp only [Expr.normal, Expr.isDefaultTable]

/-- The text of a field, given that of its table. -/
theorem lowerAll_qualified {table : Expr} (h : lowerAll table.normal.render = lowerAll table.render)
    (name : Name) :
    lowerAll (qualified table.normal table.normal.render name.normal)
      = lowerAll (qualified table table.render name) := by
  rw [qualified, qualified, table.isDefaultTable_normal]
  split
  · exact name.lowerAll_normal
  · simp only [Text.lowerAll_append, lowerAll_grouped, table.hasSpaces_normal, h,
      name.lowerAll_normal]

mutual

theorem Expr.render_normal (e : Expr) : lowerAll e.normal.render = lowerAll e.render := by
  match e with
  | .allColumns | .countRows _ | .defaultTable => rfl
  | .aggregate _ x | .cast x _ | .count x _ =>
      simp only [Expr.normal, Expr.render, Text.lowerAll_append, x.render_normal]
  | .arith _ x y =>
      simp only [Expr.normal, Expr.render, Text.lowerAll_append, x.render_normal, y.render_normal]
  | .case bs x =>
      simp only [Expr.normal, Expr.render, Text.lowerAll_append, renderBranches_normal bs,
        x.render_normal]
  | .columnGroup x ns =>
      -- the fields of a group are all written with the text of one table
      have hfields : ((ns.map Name.normal).map (qualified x.normal x.normal.render)).map lowerAll
          = (ns.map (qualified x x.render)).map lowerAll := by
        simp only [List.map_map, Function.comp_def, lowerAll_qualified x.render_normal]
      simp only [Expr.normal, Expr.render, Text.lowerAll_append, lowerAll_commas, hfields]
  | .field x n =>
      rw [Expr.normal, Expr.render, Expr.render]
      exact lowerAll_qualified x.render_normal n
  | .call _ xs =>
      simp only [Expr.normal, Expr.render, Text.lowerAll_append,
        lowerAll_commas, renderAll_normal xs]
  | .literal l => rw [Expr.normal, Expr.render, Expr.render, l.text_normal]
  | .negate x =>
      simp only [Expr.normal, Expr.render, Text.lowerAll_append, lowerAll_grouped,
        x.hasSpaces_normal, x.render_normal]
  | .param n => simp only [Expr.normal, Expr.render, Text.lowerAll_append, n.lowerAll_normal]

theorem Condition.render_normal (c : Condition) : lowerAll c.normal.render = lowerAll c.render := by
  match c with
  | .between x y z _ =>
      simp only [Condition.normal, Condition.render, Text.lowerAll_append, lowerAll_grouped,
        Expr.hasSpaces_normal, x.render_normal, y.render_normal, z.render_normal]
  | .inList x vs _ _ =>
      simp only [Condition.normal, Condition.render, Text.lowerAll_append, lowerAll_grouped,
        Expr.hasSpaces_normal, x.render_normal, lowerAll_commas, renderAll_normal vs]
  | .isNull x _ | .like x _ _ _ | .refs x _ =>
      simp only [Condition.normal, Condition.render, Text.lowerAll_append, lowerAll_grouped,
        Expr.hasSpaces_normal, x.render_normal]
  | .logic x _ y =>
      simp only [Condition.normal, Condition.render, Text.lowerAll_append, lowerAll_grouped,
        Condition.hasSpaces, x.render_normal, y.render_normal]
  | .not x =>
      simp only [Condition.normal, Condition.render, Text.lowerAll_append, lowerAll_grouped,
        Condition.hasSpaces, x.render_normal]
  | .relation x _ y =>
      simp only [Condition.normal, Condition.render, Text.lowerAll_append, lowerAll_grouped,
        Expr.hasSpaces_normal, x.render_normal, y.render_normal]

theorem renderAll_normal (es : List Expr) :
    (renderAll (normalExprs es)).map lowerAll = (renderAll es).map lowerAll := by
  match es with
  | [] => rfl
  | e :: rest =>
      rw [normalExprs, renderAll, renderAll, List.map_cons, List.map_cons, e.render_normal,
        renderAll_normal rest]

theorem renderBranches_normal (bs : List (Condition × Expr)) :
    lowerAll (renderBranches (normalBranches bs)) = lowerAll (renderBranches bs) := by
  match bs with
  | [] => rfl
  | (c, x) :: rest =>
      simp only [normalBranches, renderBranches, Text.lowerAll_append, c.render_normal,
        x.render_normal, renderBranches_normal rest]

end

/-! ## Parameters -/

/-- The node with the name of a parameter in lower case. -/
def Node.normal : Node → Node
  | .param name => .param name.normal
  | node => node

mutual

theorem Expr.nodes_normal (e : Expr) : e.normal.nodes = e.nodes.map Node.normal := by
  match e with
  | .allColumns | .countRows _ | .defaultTable | .literal _ | .param _ => rfl
  | .aggregate _ x | .cast x _ | .columnGroup x _ | .count x _ | .field x _ | .negate x =>
      simp only [Expr.normal, Expr.nodes, List.map_cons, Node.normal, x.nodes_normal]
  | .arith _ x y =>
      simp only [Expr.normal, Expr.nodes, List.map_cons, List.map_append, Node.normal,
        x.nodes_normal, y.nodes_normal]
  | .case bs x =>
      simp only [Expr.normal, Expr.nodes, List.map_cons, List.map_append, Node.normal,
        branchNodes_normal bs, x.nodes_normal]
  | .call _ xs =>
      simp only [Expr.normal, Expr.nodes, List.map_cons, Node.normal, exprNodes_normal xs]

theorem Condition.nodes_normal (c : Condition) : c.normal.nodes = c.nodes.map Node.normal := by
  match c with
  | .between x y z _ =>
      simp only [Condition.normal, Condition.nodes, List.map_cons, List.map_append, Node.normal,
        x.nodes_normal, y.nodes_normal, z.nodes_normal]
  | .inList x vs _ _ =>
      simp only [Condition.normal, Condition.nodes, List.map_cons, List.map_append, Node.normal,
        x.nodes_normal, exprNodes_normal vs]
  | .isNull x _ | .like x _ _ _ | .refs x _ =>
      simp only [Condition.normal, Condition.nodes, List.map_cons, Node.normal, x.nodes_normal]
  | .not x =>
      simp only [Condition.normal, Condition.nodes, List.map_cons, Node.normal, x.nodes_normal]
  | .logic x _ y =>
      simp only [Condition.normal, Condition.nodes, List.map_cons, List.map_append, Node.normal,
        x.nodes_normal, y.nodes_normal]
  | .relation x _ y =>
      simp only [Condition.normal, Condition.nodes, List.map_cons, List.map_append, Node.normal,
        x.nodes_normal, y.nodes_normal]

theorem exprNodes_normal (es : List Expr) :
    exprNodes (normalExprs es) = (exprNodes es).map Node.normal := by
  match es with
  | [] => rfl
  | e :: rest =>
      rw [normalExprs, exprNodes, exprNodes, e.nodes_normal, exprNodes_normal rest,
        List.map_append]

theorem branchNodes_normal (bs : List (Condition × Expr)) :
    branchNodes (normalBranches bs) = (branchNodes bs).map Node.normal := by
  match bs with
  | [] => rfl
  | (c, x) :: rest =>
      rw [normalBranches, branchNodes, branchNodes, c.nodes_normal, x.nodes_normal,
        branchNodes_normal rest, List.map_append, List.map_append]

end

theorem params_map_normal (nodes : List Node) :
    (nodes.map Node.normal).filterMap Node.param?
      = (nodes.filterMap Node.param?).map Name.normal := by
  induction nodes with
  | nil => rfl
  | cons node rest ih =>
      cases node with
      | param name => exact congrArg (name.normal :: ·) ih
      | _ => exact ih

/-! ## Queries -/

theorem Select.render_normal (s : Select) : lowerAll s.normal.render = lowerAll s.render := by
  rw [Select.render, Select.render, Select.normal]
  simp only [Text.lowerAll_append, lowerAll_commas, renderAll_normal]

theorem SortKey.render_normal (k : SortKey) : lowerAll k.normal.render = lowerAll k.render := by
  rw [SortKey.render, SortKey.render, SortKey.normal]
  simp only [Text.lowerAll_append, Expr.render_normal]

theorem Query.render_normal (q : Query) : lowerAll q.normal.render = lowerAll q.render := by
  obtain ⟨select, source, filter, order⟩ := q
  have hkeys : ∀ keys : List SortKey, ((keys.map SortKey.normal).map SortKey.render).map lowerAll
      = (keys.map SortKey.render).map lowerAll := by
    intro keys
    simp only [List.map_map, Function.comp_def, SortKey.render_normal]
  rw [Query.render, Query.render, Query.normal]
  simp only [Text.lowerAll_append, Select.render_normal]
  congr 1
  · cases filter with
    | none => rfl
    | some c => simp only [Option.map_some, Text.lowerAll_append, c.render_normal]
  · cases order with
    | none => rfl
    | some keys =>
        simp only [Option.map_some, Text.lowerAll_append, lowerAll_commas, hkeys]

theorem exprs_normal (keys : List SortKey) :
    (keys.map SortKey.normal).map (·.expr) = normalExprs (keys.map (·.expr)) := by
  induction keys with
  | nil => rfl
  | cons k rest ih =>
      rw [List.map_cons, List.map_cons, List.map_cons, normalExprs, ih]
      rfl

theorem Query.nodes_normal (q : Query) : q.normal.nodes = q.nodes.map Node.normal := by
  obtain ⟨select, source, filter, order⟩ := q
  have hfilter : ((filter.map Condition.normal).map Condition.nodes).getD []
      = ((filter.map Condition.nodes).getD []).map Node.normal := by
    cases filter with
    | none => rfl
    | some c => exact c.nodes_normal
  have horder : ((order.map fun keys => keys.map SortKey.normal).map fun keys =>
        Node.order :: exprNodes (keys.map (·.expr))).getD []
      = ((order.map fun keys => Node.order :: exprNodes (keys.map (·.expr))).getD []).map
          Node.normal := by
    cases order with
    | none => rfl
    | some keys =>
        simp only [Option.map_some, Option.getD_some, exprs_normal, exprNodes_normal,
          List.map_cons, Node.normal]
  rw [Query.nodes, Query.nodes, Query.normal]
  simp only [hfilter, horder, Select.normal, exprNodes_normal, List.map_cons, List.map_append,
    Node.normal]

/-- What sameness keeps of a text and of parameters is what the normal form keeps. -/
theorem alike_of_normal {α : Type} {same : α → α → Bool} {normal : α → α} {render : α → String}
    {nodes : α → List Node} (hsame : ∀ a b, same a b = true ↔ normal a = normal b)
    (hrender : ∀ a, lowerAll (render (normal a)) = lowerAll (render a))
    (hnodes : ∀ a, nodes (normal a) = (nodes a).map Node.normal) {a b : α}
    (h : same a b = true) :
    lowerAll (render a) = lowerAll (render b) ∧
      sameNames ((nodes a).filterMap Node.param?) ((nodes b).filterMap Node.param?) = true := by
  have hnormal : normal a = normal b := (hsame a b).mp h
  constructor
  · rw [← hrender a, hnormal, hrender b]
  · rw [sameNames_iff, ← params_map_normal, ← params_map_normal, ← hnodes a, hnormal, hnodes b]

/-- The same statement has one text up to the case of its letters, and refers to
the same parameters in the same order. -/
theorem same_text :
    (∀ a b : Query, a.same b = true →
      lowerAll a.render = lowerAll b.render ∧ sameNames a.params b.params = true) ∧
    (∀ a b : Expr, a.same b = true →
      lowerAll a.render = lowerAll b.render ∧ sameNames a.params b.params = true) ∧
    ∀ a b : Condition, a.same b = true →
      lowerAll a.render = lowerAll b.render ∧ sameNames a.params b.params = true :=
  ⟨fun _ _ => alike_of_normal Query.same_iff Query.render_normal Query.nodes_normal,
    fun _ _ => alike_of_normal Expr.same_iff Expr.render_normal Expr.nodes_normal,
    fun _ _ => alike_of_normal Condition.same_iff Condition.render_normal Condition.nodes_normal⟩

/-- Codes and prices of the goods with a price, by the names of fields and parameter. -/
def priceList (code price param : Name) : Query where
  select := .single (.columnGroup .defaultTable [code, price])
  source := some "Goods"
  filter := some (.relation (.field .defaultTable price) .eq (.param param))
  order := none

theorem same_text_priceList :
    (priceList ⟨"Code"⟩ ⟨"Price"⟩ ⟨"p1"⟩).render
        = "SELECT (Code, Price) FROM Goods WHERE Price = &p1" ∧
      (priceList ⟨"CODE"⟩ ⟨"price"⟩ ⟨"P1"⟩).render
        = "SELECT (CODE, price) FROM Goods WHERE price = &P1" ∧
      lowerAll (priceList ⟨"Code"⟩ ⟨"Price"⟩ ⟨"p1"⟩).render
        = lowerAll (priceList ⟨"CODE"⟩ ⟨"price"⟩ ⟨"P1"⟩).render ∧
      sameNames (priceList ⟨"Code"⟩ ⟨"Price"⟩ ⟨"p1"⟩).params
        (priceList ⟨"CODE"⟩ ⟨"price"⟩ ⟨"P1"⟩).params = true := by
  have hsame : (priceList ⟨"Code"⟩ ⟨"Price"⟩ ⟨"p1"⟩).same
      (priceList ⟨"CODE"⟩ ⟨"price"⟩ ⟨"P1"⟩) = true := by decide +kernel
  exact ⟨rfl, rfl, same_text.1 _ _ hsame⟩

end Statement

end Inquiry
