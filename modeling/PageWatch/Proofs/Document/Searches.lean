import Mathlib.Data.List.Sort
import Mathlib.Data.Option.Basic
import PageWatch.Document.Search

/-!
# Searches in a document

A node of a document is told by its place: the numbers of the children on the way to it.
In document order a node comes before what is inside it, and siblings from first to last;
that is the lexicographic order of the places. A search lists what it finds in this order,
from the document as from a node, and a search for the first ends where the list begins.
-/

set_option autoImplicit false

namespace PageWatch

/-- The number of the child to go to at each step of the way. -/
abbrev Place := List Nat

def Place.IsAbove (p q : Place) : Prop := p <+: q ∧ q ≠ p

instance (p q : Place) : Decidable (p.IsAbove q) := inferInstanceAs (Decidable (_ ∧ _))

namespace Node

/-- The node at a place, on the way from this node. -/
def at? : Node → Place → Option Node
  | n, [] => some n
  | n, i :: p => n.children[i]?.bind fun child => child.at? p

mutual

def placed : Node → List (Place × Node)
  | element tag attributes children =>
    ([], element tag attributes children) :: placedAll 0 children
  | text content => [([], text content)]
  | comment content => [([], comment content)]

def placedAll (i : Nat) : List Node → List (Place × Node)
  | [] => []
  | n :: rest => n.placed.map (fun (p, x) => (i :: p, x)) ++ placedAll (i + 1) rest

end

mutual

theorem placed_nodes : ∀ n : Node, n.placed.map (·.2) = n.preorder
  | element tag attributes children => by
    rw [placed, preorder, List.map_cons, placedAll_nodes]
  | text content => rfl
  | comment content => rfl

theorem placedAll_nodes (i : Nat) :
    ∀ nodes : List Node, (placedAll i nodes).map (·.2) = preorderAll nodes
  | [] => rfl
  | n :: rest => by
    rw [placedAll, preorderAll, List.map_append, List.map_map, placedAll_nodes (i + 1) rest,
      ← placed_nodes n]
    rfl

end

theorem own_place {p : Place} {n x : Node} : (p, x) = ([], n) ↔ p = [] ∧ n = x := by
  rw [Prod.mk.injEq, @eq_comm _ x n]

mutual

theorem mem_placed {p : Place} {x : Node} : ∀ {n : Node}, (p, x) ∈ n.placed ↔ n.at? p = some x
  | element tag attributes children => by
    rw [placed, List.mem_cons, own_place, mem_placedAll 0]
    cases p with
    | nil => simp [at?]
    | cons j p => simp [at?, Node.children]
  | text content => by
    rw [placed, List.mem_singleton, own_place]
    cases p <;> simp [at?, children]
  | comment content => by
    rw [placed, List.mem_singleton, own_place]
    cases p <;> simp [at?, children]

theorem mem_placedAll {q : Place} {x : Node} : ∀ (i : Nat) {nodes : List Node},
    (q, x) ∈ placedAll i nodes ↔
      ∃ j p, q = (i + j) :: p ∧ (nodes[j]?.bind fun child => child.at? p) = some x
  | i, [] => by simp [placedAll]
  | i, n :: rest => by
    have first : (q, x) ∈ n.placed.map (fun (p, y) => (i :: p, y)) ↔
        ∃ p, q = i :: p ∧ n.at? p = some x := by
      simp only [List.mem_map, Prod.exists, Prod.mk.injEq]
      constructor
      · rintro ⟨p, y, mem, rfl, rfl⟩
        exact ⟨p, rfl, mem_placed.mp mem⟩
      · rintro ⟨p, rfl, found⟩
        exact ⟨p, x, mem_placed.mpr found, rfl, rfl⟩
    rw [placedAll, List.mem_append, first, mem_placedAll (i + 1)]
    constructor
    · rintro (⟨p, rfl, found⟩ | ⟨j, p, rfl, found⟩)
      · exact ⟨0, p, rfl, found⟩
      · exact ⟨j + 1, p, by rw [Nat.add_right_comm, Nat.add_assoc], found⟩
    · rintro ⟨j, p, rfl, found⟩
      cases j with
      | zero => exact .inl ⟨p, rfl, found⟩
      | succ j => exact .inr ⟨j, p, by rw [Nat.add_right_comm, Nat.add_assoc], found⟩

end

mutual

theorem ordered_placed : ∀ n : Node, n.placed.Pairwise (·.1 < ·.1)
  | element tag attributes children => by
    refine List.pairwise_cons.mpr ⟨fun (q, x) mem => ?_, ordered_placedAll 0 children⟩
    obtain ⟨j, p, rfl, -⟩ := (mem_placedAll 0).mp mem
    exact List.nil_lt_cons _ _
  | text content => List.pairwise_singleton _ _
  | comment content => List.pairwise_singleton _ _

theorem ordered_placedAll : ∀ (i : Nat) (nodes : List Node),
    (placedAll i nodes).Pairwise (·.1 < ·.1)
  | i, [] => .nil
  | i, n :: rest => by
    refine List.pairwise_append.mpr ⟨?_, ordered_placedAll (i + 1) rest, ?_⟩
    · refine List.pairwise_map.mpr ((ordered_placed n).imp fun less => ?_)
      exact List.cons_lt_cons_iff.mpr (.inr ⟨rfl, less⟩)
    · rintro ⟨_, _⟩ front ⟨q, y⟩ mem
      obtain ⟨⟨p, x⟩, -, same⟩ := List.mem_map.mp front
      obtain ⟨rfl, rfl⟩ := Prod.mk.inj same
      obtain ⟨j, q, rfl, -⟩ := (mem_placedAll (i + 1)).mp mem
      exact List.cons_lt_cons_iff.mpr (.inl (by omega))

end

theorem at?_append {n m : Node} {p : Place} (found : n.at? p = some m) (q : Place) :
    n.at? (p ++ q) = m.at? q := by
  induction p generalizing n with
  | nil =>
    obtain rfl := Option.some.inj found
    rfl
  | cons i p ih =>
    obtain ⟨child, given, found⟩ := Option.bind_eq_some_iff.mp found
    rw [List.cons_append, at?, given, Option.bind_some]
    exact ih found

theorem mem_placedAll_children {n x : Node} {p : Place} :
    (p, x) ∈ placedAll 0 n.children ↔ p ≠ [] ∧ n.at? p = some x := by
  rw [mem_placedAll]
  cases p with
  | nil => simp
  | cons j p => simp [at?]

end Node

namespace Matcher

def Fits (m : Matcher) (x : Node) : Prop :=
  x.isElement = true ∧ x.tag = m.tag ∧ ∀ name expected, m.wanted = some (name, expected) →
    ∃ actual, x.attribute? name = some actual ∧ m.agreement.holds actual expected = true

theorem hasWanted_iff {m : Matcher} {x : Node} :
    m.hasWanted x = true ↔ ∀ name expected, m.wanted = some (name, expected) →
      ∃ actual, x.attribute? name = some actual ∧ m.agreement.holds actual expected = true := by
  unfold hasWanted
  cases m.wanted with
  | none => simp
  | some wanted => cases found : x.attribute? wanted.1 <;> simp [Prod.ext_iff, found]

theorem accepts_iff {m : Matcher} {x : Node} : m.accepts x = true ↔ m.Fits x := by
  rw [accepts, Bool.and_eq_true, Bool.and_eq_true, beq_iff_eq, hasWanted_iff, and_assoc, Fits]

end Matcher

theorem Node.filter_elements (m : Matcher) (nodes : List Node) :
    (nodes.filter isElement).filter m.accepts = nodes.filter m.accepts := by
  rw [List.filter_filter]
  refine List.filter_congr fun x _ => ?_
  by_cases accepted : m.accepts x = true
  · rw [accepted, (Matcher.accepts_iff.mp accepted).1, Bool.and_self]
  · rw [Bool.eq_false_iff.mpr accepted, Bool.false_and]

namespace Document

/-- The node at a place. The document is no node, so nothing is at its own place. -/
def at? (d : Document) : Place → Option Node
  | [] => none
  | i :: p => d.nodes[i]?.bind fun n => n.at? p

/-- The nodes are all those for which something holds, in document order and each once, at their
places. -/
structure Lists (d : Document) (Holds : Place → Node → Prop) (places : List Place)
    (nodes : List Node) : Prop where
  ordered : places.Pairwise (· < ·)
  complete : ∀ p, p ∈ places ↔ ∃ x, d.at? p = some x ∧ Holds p x
  shown : places.map d.at? = nodes.map some

variable {d : Document} {Holds : Place → Node → Prop}

theorem Lists.filter_places {At : Place → Prop} [DecidablePred At] {places places' : List Place}
    {nodes nodes' : List Node} (whole : d.Lists Holds places nodes)
    (part : d.Lists (fun p x => At p ∧ Holds p x) places' nodes') :
    places.filter At = places' := by
  refine (whole.ordered.filter _).eq_of_mem_iff part.ordered fun p => ?_
  rw [List.mem_filter, whole.complete, part.complete, decide_eq_true_eq]
  constructor
  · rintro ⟨⟨x, found, holds⟩, at'⟩
    exact ⟨x, found, at', holds⟩
  · rintro ⟨x, found, at', holds⟩
    exact ⟨⟨x, found, holds⟩, at'⟩

theorem Lists.of_placed {placed : List (Place × Node)} (ordered : placed.Pairwise (·.1 < ·.1))
    (complete : ∀ p x, (p, x) ∈ placed ↔ d.at? p = some x ∧ Holds p x) (m : Matcher) :
    d.Lists (fun p x => Holds p x ∧ m.Fits x) ((placed.filter (m.accepts ·.2)).map (·.1))
      ((placed.map (·.2)).filter m.accepts) where
  ordered := List.pairwise_map.mpr (ordered.filter _)
  complete p := by simp [complete, Matcher.accepts_iff, and_assoc]
  shown := by
    rw [List.filter_map, List.map_map, List.map_map]
    refine List.map_congr_left fun (p, x) mem => ?_
    exact ((complete p x).mp (List.mem_of_mem_filter mem)).1

variable {n : Node} {p : Place}

theorem at?_append (found : d.at? p = some n) (q : Place) : d.at? (p ++ q) = n.at? q := by
  cases p with
  | nil => cases found
  | cons i p =>
    obtain ⟨top, given, found⟩ := Option.bind_eq_some_iff.mp found
    rw [List.cons_append, at?, given, Option.bind_some]
    exact Node.at?_append found q

theorem mem_placedAll {x : Node} : (p, x) ∈ Node.placedAll 0 d.nodes ↔ d.at? p = some x := by
  rw [Node.mem_placedAll]
  cases p with
  | nil => simp [at?]
  | cons j p => simp [at?]

def below (p : Place) (n : Node) : List (Place × Node) :=
  (Node.placedAll 0 n.children).map fun (q, x) => (p ++ q, x)

theorem below_nodes (p : Place) (n : Node) : (below p n).map (·.2) = n.descendants := by
  rw [below, List.map_map, Node.descendants, ← Node.placedAll_nodes 0]
  rfl

theorem ordered_below (p : Place) (n : Node) : (below p n).Pairwise (·.1 < ·.1) :=
  List.pairwise_map.mpr ((Node.ordered_placedAll 0 n.children).imp List.append_left_lt)

theorem mem_below (found : d.at? p = some n) (q : Place) (x : Node) :
    (q, x) ∈ below p n ↔ d.at? q = some x ∧ p.IsAbove q := by
  have own : (q, x) ∈ below p n ↔ ∃ r, p ++ r = q ∧ (r, x) ∈ Node.placedAll 0 n.children := by
    simp [below, and_comm]
  simp only [own, Node.mem_placedAll_children]
  constructor
  · rintro ⟨r, rfl, proper, inside⟩
    exact ⟨(at?_append found r).trans inside, List.prefix_append p r, by simpa using proper⟩
  · rintro ⟨inside, ⟨r, rfl⟩, proper⟩
    exact ⟨r, rfl, by simpa using proper, (at?_append found r).symm.trans inside⟩

theorem lists_findAll (d : Document) (m : Matcher) :
    ∃ places, d.Lists (fun _ x => m.Fits x) places (d.findAll m) := by
  have complete (p : Place) (x : Node) :
      (p, x) ∈ Node.placedAll 0 d.nodes ↔ d.at? p = some x ∧ True := by
    rw [mem_placedAll, and_true]
  have all := Lists.of_placed (Node.ordered_placedAll 0 d.nodes) complete m
  simp only [true_and] at all
  rw [Node.placedAll_nodes, ← Node.filter_elements] at all
  exact ⟨_, all⟩

theorem lists_findAll_below (found : d.at? p = some n) (m : Matcher) :
    ∃ places, d.Lists (fun q x => p.IsAbove q ∧ m.Fits x) places (n.findAll m) := by
  have all := Lists.of_placed (ordered_below p n) (mem_below found) m
  rw [below_nodes, ← Node.filter_elements] at all
  exact ⟨_, all⟩

end Document

theorem Node.findTag?_eq_find? (n : Node) (tag : String) :
    n.findTag? tag = n.find? (.ofTag tag) := by
  rw [findTag?, find?, elements, List.find?_filter, List.find?_filter]
  congr 1
  funext x
  rw [Matcher.accepts, Matcher.hasWanted, Matcher.ofTag]
  simp

/-- A search of a document lists all elements that match, each once and in document order. A search
from a node lists those of them that are below the node, in the same order. The first that a search
finds is the first in the list, and a search for a tag is one for elements with nothing but the tag
to match. -/
theorem searches_agree (d : Document) (m : Matcher) :
    ∃ places, d.Lists (fun _ x => m.Fits x) places (d.findAll m) ∧
      d.find? m = (d.findAll m).head? ∧
      ∀ p n, d.at? p = some n →
        d.Lists (fun q x => p.IsAbove q ∧ m.Fits x) (places.filter (p.IsAbove ·)) (n.findAll m) ∧
          n.find? m = (n.findAll m).head? ∧
          ∀ tag, n.findTag? tag = n.find? (.ofTag tag) := by
  obtain ⟨places, whole⟩ := d.lists_findAll m
  refine ⟨places, whole, List.head?_filter.symm, ?_⟩
  intro p n found
  refine ⟨?_, List.head?_filter.symm, n.findTag?_eq_find?⟩
  obtain ⟨places', part⟩ := Document.lists_findAll_below found m
  rw [whole.filter_places part]
  exact part

section Sample

def sampleInner : Node := .element "div" [("class", "x")] [.text "b"]

def sampleOuter : Node :=
  .element "div" [("class", "x y")]
    [.text "a", .element "p" [("class", "x")] [sampleInner], .comment "c"]

def sampleNesting : Document := ⟨[.text "\n", sampleOuter, sampleInner]⟩

def sampleMatcher : Matcher := ⟨"div", some ("class", "x"), .token⟩

theorem searches_agree_nested :
    sampleNesting.at? [1] = some sampleOuter ∧
      sampleNesting.findAll sampleMatcher = [sampleOuter, sampleInner, sampleInner] ∧
      ∃ places, sampleNesting.Lists (fun _ x => sampleMatcher.Fits x) places
          (sampleNesting.findAll sampleMatcher) ∧
        sampleNesting.Lists (fun q x => Place.IsAbove [1] q ∧ sampleMatcher.Fits x)
          (places.filter (Place.IsAbove [1] ·)) (sampleOuter.findAll sampleMatcher) ∧
        sampleOuter.findAll sampleMatcher = [sampleInner] := by
  have found : sampleNesting.at? [1] = some sampleOuter := rfl
  obtain ⟨places, whole, -, below⟩ := searches_agree sampleNesting sampleMatcher
  exact ⟨found, rfl, places, whole, (below [1] sampleOuter found).1, rfl⟩

end Sample

end PageWatch
