import Stockroom.Proofs.Query.Redundancy
import Stockroom.Proofs.Query.Restriction
import Stockroom.Proofs.Report.Escaping
import Stockroom.Report.Explanation

/-! # What an explanation tells

The head of a node is what it says apart from the nodes below it. The verdict of a node follows from
its head and the verdicts of its parts, and its label determines its head. So queries with the same
tree below the root match the same records. A label leaves out the key by which a field was named,
and the operator and value behind a key that names none: neither counts.
-/
namespace Stockroom

/-- What a node says apart from its parts. A tag of an unknown key says only that. -/
inductive Head
  | seek (p : Pattern)
  | restrict (f : Field) (op : Operator) (p : Pattern)
  | never
  | negate
  | choose
  deriving DecidableEq, Repr

namespace Head

def mark : Head → String
  | seek _ => "green"
  | restrict _ _ _ => "cyan"
  | never => "red"
  | negate => "bold red"
  | choose => "bold yellow"

def verdict (r : Record) : Head → List Bool → Bool
  | seek p, _ => p.inSomeField r
  | restrict (.number f) op p, _ => op.compare (r.number f) (Numeral.leading p.body)
  | restrict (.text f) _ p, _ => p.foundIn (r.text f)
  | never, _ => false
  | negate, below => !below.any id
  | choose, below => below.any id

theorem not_mem_mark (head : Head) : ']' ∉ head.mark.toList := by
  have hall : ∀ name ∈ ["green", "cyan", "red", "bold red", "bold yellow"], ']' ∉ name.toList := by
    decide +kernel
  apply hall
  cases head <;> simp [mark]

end Head

namespace Node

def head : Node → Head
  | term p => .seek p
  | tag ⟨_, some f, op, p⟩ => .restrict f op p
  | tag ⟨_, none, _, _⟩ => .never
  | not _ => .negate
  | anyOf _ => .choose

def parts : Node → List Node
  | term _ => []
  | tag _ => []
  | not inner => [inner]
  | anyOf branches => branches

mutual

/-- What holds of a node if it holds of its parts holds of every node. -/
theorem parts_induction {motive : Node → Prop}
    (step : ∀ n, (∀ part ∈ n.parts, motive part) → motive n) : ∀ n : Node, motive n
  | term p => step (.term p) (List.forall_mem_nil _)
  | tag t => step (.tag t) (List.forall_mem_nil _)
  | not inner => step (.not inner) (List.forall_mem_singleton.mpr (parts_induction step inner))
  | anyOf branches => step (.anyOf branches) (forall_mem_of_parts step branches)

theorem forall_mem_of_parts {motive : Node → Prop}
    (step : ∀ n, (∀ part ∈ n.parts, motive part) → motive n) : ∀ ns : List Node, ∀ n ∈ ns, motive n
  | [] => List.forall_mem_nil _
  | n :: ns => List.forall_mem_cons.mpr ⟨parts_induction step n, forall_mem_of_parts step ns⟩

end

theorem holds_eq_verdict (r : Record) (n : Node) :
    n.holds r = n.head.verdict r (n.parts.map (holds r)) := by
  cases n with
  | term p => rfl
  | tag t =>
    obtain ⟨key, field, op, p⟩ := t
    rcases field with _ | f | f <;> rfl
  | not inner => simp [holds, head, parts, Head.verdict]
  | anyOf branches => simp [holds, anyHolds_eq_any, head, parts, Head.verdict]

end Node

namespace Markup

/-- The name of the first tag can be read off. -/
theorem within_inj {name name' : String} (hn : ']' ∉ name.toList) (hn' : ']' ∉ name'.toList)
    {inside inside' behind behind' : Markup}
    (h : (within name inside ++ behind).render = (within name' inside' ++ behind').render) :
    name = name' := by
  simp only [within, List.cons_append, render_cons, Piece.render, List.append_assoc,
    List.nil_append, List.cons.injEq, true_and] at h
  exact String.toList_inj.mp (Text.append_cons_inj hn hn' h).1

end Markup

theorem Node.label_eq_within (n : Node) :
    ∃ inside behind, n.label = Markup.within n.head.mark inside ++ behind := by
  cases n with
  | term p => exact ⟨_, _, rfl⟩
  | tag t =>
    obtain ⟨key, field, op, p⟩ := t
    cases field <;> exact ⟨_, _, rfl⟩
  | not inner => exact ⟨_, [], (List.append_nil _).symm⟩
  | anyOf branches => exact ⟨_, [], (List.append_nil _).symm⟩

theorem Node.mark_eq_of_label {n n' : Node} (h : n.label.render = n'.label.render) :
    n.head.mark = n'.head.mark := by
  obtain ⟨inside, behind, hn⟩ := n.label_eq_within
  obtain ⟨inside', behind', hn'⟩ := n'.label_eq_within
  rw [hn, hn'] at h
  exact Markup.within_inj n.head.not_mem_mark n'.head.not_mem_mark h

/-- One of two words in front of a closing parenthesis can be read off. -/
theorem word_append_inj {word other u v : Text} (hw : ')' ∉ word) (ho : ')' ∉ other)
    (hne : word ≠ other) {b b' : Bool}
    (h : (if b then word else other) ++ ')' :: u = (if b' then word else other) ++ ')' :: v) :
    b = b' ∧ u = v := by
  have hmem (b : Bool) : ')' ∉ (if b then word else other) := by cases b <;> simpa
  obtain ⟨hword, htail⟩ := Text.append_cons_inj (hmem b) (hmem b') h
  refine ⟨?_, htail⟩
  cases b <;> cases b' <;> simp_all

theorem Pattern.render_label (p : Pattern) :
    p.label.render = "[green]any field[/green] (".toList ++
      ((if p.literal then "literal".toList else "text".toList) ++
        ')' :: (" contains ".toList ++ escape p.body.quoted)) := by
  simp only [label, Markup.within, Markup.ofLiteral, shownQuoted, List.cons_append, List.nil_append,
    List.append_assoc, List.append_nil, Markup.render_cons, Markup.render_nil, Piece.render]
  rfl

theorem Pattern.label_injective {p p' : Pattern} (h : p.label.render = p'.label.render) :
    p = p' := by
  rw [render_label, render_label, List.append_cancel_left_eq] at h
  obtain ⟨hliteral, hbody⟩ := word_append_inj (by decide) (by decide) (by decide) h
  have hb : p.body = p'.body := escape_quoted_injective (List.append_cancel_left hbody)
  cases p
  cases p'
  rw [Pattern.mk.injEq]
  exact ⟨hb, hliteral⟩

theorem Field.not_mem_label (f : Field) : '[' ∉ f.label := by
  rcases f with f | f <;> cases f <;> decide

theorem Field.label_injective {f f' : Field} (h : f.label = f'.label) : f = f' := by
  have hmem (f : Field) : f ∈ TextField.all.map text ++ NumericField.all.map number := by
    cases f with
    | text f => exact List.mem_append_left _ (List.mem_map_of_mem f.mem_all)
    | number f => exact List.mem_append_right _ (List.mem_map_of_mem f.mem_all)
  have hall : ∀ f ∈ TextField.all.map text ++ NumericField.all.map number,
      ∀ f' ∈ TextField.all.map text ++ NumericField.all.map number,
        f.label = f'.label → f = f' := by
    decide +kernel
  exact hall f (hmem f) f' (hmem f') h

theorem Tag.render_label (key : Text) (f : Field) (op : Operator) (p : Pattern) :
    (label ⟨key, some f, op, p⟩).render = "[cyan]".toList ++
      (f.label ++ '[' :: ("/cyan] (".toList ++ (f.kindName ++
        ((if p.literal then " literal".toList else []) ++ ')' :: ' ' ::
          (op.symbol ++ ' ' :: escape p.body.quoted))))) := by
  simp only [label, Markup.within, Markup.ofLiteral, shownQuoted, List.cons_append, List.nil_append,
    List.append_assoc, List.append_nil, Markup.render_cons, Markup.render_nil, Piece.render]
  rfl

theorem Tag.label_injective {key key' : Text} {f f' : Field} {op op' : Operator} {p p' : Pattern}
    (h : (label ⟨key, some f, op, p⟩).render = (label ⟨key', some f', op', p'⟩).render) :
    f = f' ∧ op = op' ∧ p = p' := by
  have hsymbol (op : Operator) : ' ' ∉ op.symbol := by cases op <;> decide
  rw [render_label, render_label, List.append_cancel_left_eq] at h
  obtain ⟨hfield, h⟩ := Text.append_cons_inj f.not_mem_label f'.not_mem_label h
  have hf := Field.label_injective hfield
  subst hf
  have h := List.append_cancel_left (List.append_cancel_left h)
  obtain ⟨hliteral, h⟩ := word_append_inj (by decide) (by decide) (by decide) h
  obtain ⟨hop, hbody⟩ := Text.append_cons_inj (hsymbol op) (hsymbol op') (List.cons.inj h).2
  have hb : p.body = p'.body := escape_quoted_injective hbody
  have ho : op = op' := by
    have hs := Operator.ofSymbol?_symbol op
    rw [hop, Operator.ofSymbol?_symbol] at hs
    exact (Option.some.inj hs).symm
  cases p
  cases p'
  rw [Pattern.mk.injEq]
  exact ⟨rfl, ho, hb, hliteral⟩

namespace Node

theorem eq_term_of_head {n : Node} {p : Pattern} (h : n.head = .seek p) : n = .term p := by
  cases n with
  | term p' => rw [Head.seek.inj h]
  | tag t => obtain ⟨_, _ | _, _, _⟩ := t <;> cases h
  | not inner => cases h
  | anyOf branches => cases h

theorem eq_tag_of_head {n : Node} {f : Field} {op : Operator} {p : Pattern}
    (h : n.head = .restrict f op p) : ∃ key, n = .tag ⟨key, some f, op, p⟩ := by
  cases n with
  | term p' => cases h
  | tag t =>
    obtain ⟨key, _ | f', op', p'⟩ := t
    · cases h
    · obtain ⟨rfl, rfl, rfl⟩ := Head.restrict.inj h
      exact ⟨key, rfl⟩
  | not inner => cases h
  | anyOf branches => cases h

/-- The label tells the head. -/
theorem head_eq_of_label {n n' : Node} (h : n.label.render = n'.label.render) :
    n.head = n'.head := by
  have hmark := mark_eq_of_label h
  cases hn : n.head with
  | seek p =>
    cases hn' : n'.head with
    | seek p' =>
      rw [eq_term_of_head hn, eq_term_of_head hn'] at h
      rw [Pattern.label_injective h]
    | _ => simp [hn, hn', Head.mark] at hmark
  | restrict f op p =>
    cases hn' : n'.head with
    | restrict f' op' p' =>
      obtain ⟨key, rfl⟩ := eq_tag_of_head hn
      obtain ⟨key', rfl⟩ := eq_tag_of_head hn'
      obtain ⟨rfl, rfl, rfl⟩ := Tag.label_injective h
      rfl
    | _ => simp [hn, hn', Head.mark] at hmark
  | never => cases hn' : n'.head <;> simp [hn, hn', Head.mark] at hmark ⊢
  | negate => cases hn' : n'.head <;> simp [hn, hn', Head.mark] at hmark ⊢
  | choose => cases hn' : n'.head <;> simp [hn, hn', Head.mark] at hmark ⊢

end Node

/-- A tree as it is written, with the strings of its labels. -/
inductive Outline
  | node (label : Text) (children : List Outline)
  deriving Repr

namespace Tree

mutual

def outline : Tree → Outline
  | node label children => .node label.render (outlines children)

def outlines : List Tree → List Outline
  | [] => []
  | child :: rest => child.outline :: outlines rest

end

theorem outlines_eq_map (children : List Tree) : outlines children = children.map outline := by
  induction children with
  | nil => rfl
  | cons child rest ih => simp [outlines, ih]

def children : Tree → List Tree
  | node _ children => children

end Tree

namespace Node

def outline (n : Node) : Outline := n.toTree.outline

theorem outlines_toTrees (ns : List Node) : Tree.outlines (toTrees ns) = ns.map outline := by
  rw [toTrees_eq_map, Tree.outlines_eq_map, List.map_map]
  rfl

theorem outline_eq (n : Node) : n.outline = .node n.label.render (n.parts.map outline) := by
  cases n with
  | anyOf branches => rw [outline, toTree, Tree.outline, outlines_toTrees, parts]
  | _ => rfl

theorem map_holds_of_map_outline {r : Record} {ns ns' : List Node}
    (h : ∀ n ∈ ns, ∀ n' : Node, n.outline = n'.outline → n.holds r = n'.holds r)
    (he : ns.map outline = ns'.map outline) : ns.map (holds r) = ns'.map (holds r) := by
  induction ns generalizing ns' with
  | nil =>
    cases ns' with
    | nil => rfl
    | cons n' ns' => cases he
  | cons n ns ih =>
    cases ns' with
    | nil => cases he
    | cons n' ns' =>
      obtain ⟨hhead, htail⟩ := List.cons.inj he
      rw [List.map_cons, List.map_cons, h n List.mem_cons_self n' hhead,
        ih (fun m hm => h m (List.mem_cons_of_mem n hm)) htail]

theorem holds_of_outline {r : Record} {n n' : Node} (h : n.outline = n'.outline) :
    n.holds r = n'.holds r := by
  induction n using parts_induction generalizing n' with
  | step n ih =>
    rw [outline_eq, outline_eq, Outline.node.injEq] at h
    obtain ⟨hlabel, hparts⟩ := h
    rw [holds_eq_verdict, holds_eq_verdict, head_eq_of_label hlabel,
      map_holds_of_map_outline (fun part hp n' => ih part hp) hparts]

theorem map_holds_of_outlines {r : Record} {ns ns' : List Node}
    (h : ns.map outline = ns'.map outline) : ns.map (holds r) = ns'.map (holds r) :=
  map_holds_of_map_outline (fun _ _ _ => holds_of_outline) h

end Node

namespace Query

/-- What is written below the root of the explanation of a query. -/
def outlines (q : Query) : List Outline := Tree.outlines q.toTree.children

theorem outlines_of_clauses {q : Query} (h : q.clauses ≠ []) :
    q.outlines = q.clauses.map Node.outline := by
  rw [outlines, toTree, Tree.children, clauseTrees]
  cases hq : q.clauses with
  | nil => exact absurd hq h
  | cons n ns => exact Node.outlines_toTrees _

/-- The note that stands in place of no clauses is the label of no clause. -/
theorem clauses_eq_nil_of_outlines {q q' : Query} (hq : q.clauses = [])
    (h : q.outlines = q'.outlines) : q'.clauses = [] := by
  by_contra hne
  rw [outlines_of_clauses hne, outlines, toTree, Tree.children, clauseTrees, hq] at h
  cases hq' : q'.clauses with
  | nil => exact hne hq'
  | cons n ns =>
    rw [hq', List.map_cons, Node.outline_eq] at h
    obtain ⟨hnode, -⟩ := List.cons.inj h
    obtain ⟨inside, behind, hn⟩ := n.label_eq_within
    have hlabel := (Outline.node.inj hnode).1
    rw [hn, ← List.append_nil (Markup.within "dim" _)] at hlabel
    have hmark := Markup.within_inj (by decide) n.head.not_mem_mark hlabel
    cases hhead : n.head <;> simp [hhead, Head.mark] at hmark

theorem holds_eq_all_map (q : Query) (r : Record) :
    q.holds r = (q.clauses.map (Node.holds r)).all id := by
  rw [holds, List.all_map]
  rfl

theorem holds_of_outlines {q q' : Query} (h : q.outlines = q'.outlines) (r : Record) :
    q.holds r = q'.holds r := by
  by_cases hq : q.clauses = []
  · rw [holds, holds, hq, clauses_eq_nil_of_outlines hq h]
  · have hq' : q'.clauses ≠ [] := fun hq' => hq (clauses_eq_nil_of_outlines hq' h.symm)
    rw [outlines_of_clauses hq, outlines_of_clauses hq'] at h
    rw [holds_eq_all_map, holds_eq_all_map, Node.map_holds_of_outlines h]

end Query

/-- Queries that are explained alike below the root match the same records. -/
theorem explanation_determines_matches (q q' : Text)
    (h : Tree.outlines (Query.ofText q).toTree.children =
      Tree.outlines (Query.ofText q').toTree.children) (r : Record) :
    r.matchesText q = r.matchesText q' :=
  Query.holds_of_outlines h r

/-- Neither the parentheses nor the choice of the key are seen in the explanation. -/
theorem explanation_determines_matches_alias :
    Tree.outlines (Query.ofText "qty:>5".toList).toTree.children =
        Tree.outlines (Query.ofText "(estoque:>5)".toList).toTree.children ∧
      ∀ r : Record, r.matchesText "qty:>5".toList = r.matchesText "(estoque:>5)".toList := by
  have hq : (Query.ofText "qty:>5".toList).clauses = [.tag (Tag.ofTexts "qty".toList ">5".toList)] := by
    have hc : clauseTexts "qty:>5".toList = [restriction "qty".toList ">5".toList] := by decide
    have hf : Field.ofKey? "qty".toList = some (.number .quantity) := by decide +kernel
    rw [Query.ofText, hc, List.map_singleton, Node.ofText_restriction hf]
    rfl
  have hq' : (Query.ofText "(estoque:>5)".toList).clauses =
      [.tag (Tag.ofTexts "estoque".toList ">5".toList)] := by
    have hc : clauseTexts "(estoque:>5)".toList =
        [(restriction "estoque".toList ">5".toList).between '(' ')'] := by decide
    have hf : Field.ofKey? "estoque".toList = some (.number .quantity) := by decide +kernel
    rw [Query.ofText, hc, List.map_singleton, Node.ofText_between (by decide),
      Node.ofText_restriction hf]
    rfl
  have hlabel : (Tag.ofTexts "qty".toList ">5".toList).label.render =
      (Tag.ofTexts "estoque".toList ">5".toList).label.render := by decide +kernel
  have h : (Query.ofText "qty:>5".toList).outlines = (Query.ofText "(estoque:>5)".toList).outlines := by
    rw [Query.outlines_of_clauses (by rw [hq]; exact List.cons_ne_nil _ _),
      Query.outlines_of_clauses (by rw [hq']; exact List.cons_ne_nil _ _), hq, hq', List.map_singleton,
      List.map_singleton, Node.outline_eq, Node.outline_eq, Node.label, Node.label, hlabel]
    rfl
  exact ⟨h, explanation_determines_matches _ _ h⟩

end Stockroom
