import SpanWeave.Proofs.Syntax.Nesting

/-!
Sites in a tree. A site is a node together with the path that leads to it from the root, so that
nodes that look alike are told apart. A list enumerates a relation between sites and values when it
holds the related values once each, in the order of their sites.
-/

namespace SpanWeave.Syntax

/-- The node that a path of child numbers leads to. -/
def Node.at? (n : Node) : List Nat → Option Node
  | [] => some n
  | i :: p => n.children[i]?.bind fun c => c.at? p

theorem Node.at?_append (n : Node) (p q : List Nat) :
    n.at? (p ++ q) = (n.at? p).bind fun m => m.at? q := by
  induction p generalizing n with
  | nil => rfl
  | cons i p ih =>
      simp only [List.cons_append, Node.at?]
      cases n.children[i]? with
      | none => rfl
      | some c => exact ih c

theorem Node.under_of_at? {n m : Node} {p : List Nat} (h : n.at? p = some m) : m.Under n := by
  induction p generalizing n with
  | nil =>
      obtain rfl := Option.some.inj h
      exact .root
  | cons i p ih =>
      simp only [Node.at?, Option.bind_eq_some_iff] at h
      obtain ⟨c, hc, hm⟩ := h
      exact .child (List.mem_of_getElem? hc) (ih hm)

/-- The nodes below `n` that a path of child numbers leads through, the last one included. -/
def Node.way (n : Node) : List Nat → List Node
  | [] => []
  | i :: p =>
      match n.children[i]? with
      | some c => c :: c.way p
      | none => []

theorem Node.way_append {n m : Node} {p : List Nat} (h : n.at? p = some m) (q : List Nat) :
    n.way (p ++ q) = n.way p ++ m.way q := by
  induction p generalizing n with
  | nil =>
      obtain rfl := Option.some.inj h
      rfl
  | cons i p ih =>
      obtain ⟨c, hc, hm⟩ := Option.bind_eq_some_iff.mp h
      simp only [List.cons_append, Node.way, hc, ih hm]

/-- A node and the path that leads to it. -/
structure Site where
  path : List Nat
  node : Node

namespace Site

def top (root : Node) : Site := ⟨[], root⟩

def children (x : Site) : List Site := x.node.children.mapIdx fun i c => ⟨x.path ++ [i], c⟩

def child? (x : Site) (f : Field) : Option Site := x.children.find? fun c => c.node.field = some f

/-- The site is one of the tree. -/
def IsIn (x : Site) (root : Node) : Prop := root.at? x.path = some x.node

/-- The paths of the sites part, and the first goes on to the earlier child. -/
def Before (x y : Site) : Prop :=
  ∃ p i j q r, x.path = p ++ i :: q ∧ y.path = p ++ j :: r ∧ i < j

theorem Before.mono {x y x' y' : Site} (h : x.Before y) (hx : x.path <+: x'.path)
    (hy : y.path <+: y'.path) : x'.Before y' := by
  obtain ⟨p, i, j, q, r, hxp, hyp, hij⟩ := h
  obtain ⟨q', hx'⟩ := hx
  obtain ⟨r', hy'⟩ := hy
  refine ⟨p, i, j, q ++ q', r ++ r', ?_, ?_, hij⟩
  · rw [← hx', hxp, List.append_assoc, List.cons_append]
  · rw [← hy', hyp, List.append_assoc, List.cons_append]

theorem not_before_self (x : Site) : ¬ x.Before x := by
  rintro ⟨p, i, j, q, r, hx, hx', hij⟩
  rw [hx] at hx'
  have hcons := List.append_cancel_left hx'
  obtain ⟨rfl, -⟩ := List.cons.inj hcons
  exact Nat.lt_irrefl i hij

/-- In a nested tree a site that comes before another ends before the other begins. -/
theorem Before.stop_le_start {source : Text} {root : Node} {x y : Site} (h : x.Before y)
    (hroot : root.isNested source = true) (hx : x.IsIn root) (hy : y.IsIn root) :
    x.node.span.stop ≤ y.node.span.start := by
  obtain ⟨p, i, j, q, r, hxp, hyp, hij⟩ := h
  rw [IsIn, hxp, Node.at?_append, Option.bind_eq_some_iff] at hx
  rw [IsIn, hyp, Node.at?_append, Option.bind_eq_some_iff] at hy
  obtain ⟨n, hn, hxn⟩ := hx
  obtain ⟨n', hn', hyn⟩ := hy
  obtain rfl := Option.some.inj (hn.symm.trans hn')
  simp only [Node.at?, Option.bind_eq_some_iff] at hxn hyn
  obtain ⟨c, hc, hxc⟩ := hxn
  obtain ⟨d, hd, hyd⟩ := hyn
  have hnested := (Node.isNested_of_under hroot (Node.under_of_at? hn)).1
  have hcd : c.span.stop ≤ d.span.start := by
    obtain ⟨hi, rfl⟩ := List.getElem?_eq_some_iff.mp hc
    obtain ⟨hj, rfl⟩ := List.getElem?_eq_some_iff.mp hd
    exact List.pairwise_iff_getElem.mp (Node.pairwise_children hnested) i j hi hj hij
  have hxin := (Node.isNested_of_under
    (Node.isNested_of_mem hnested (List.mem_of_getElem? hc)).1 (Node.under_of_at? hxc)).2
  have hyin := (Node.isNested_of_under
    (Node.isNested_of_mem hnested (List.mem_of_getElem? hd)).1 (Node.under_of_at? hyd)).2
  exact Nat.le_trans hxin.2 (Nat.le_trans hcd hyin.1)

theorem mem_children_iff {x c : Site} :
    c ∈ x.children ↔ ∃ i, x.node.children[i]? = some c.node ∧ c.path = x.path ++ [i] := by
  simp only [children, List.mem_mapIdx]
  constructor
  · rintro ⟨i, hi, rfl⟩
    exact ⟨i, List.getElem?_eq_getElem hi, rfl⟩
  · rintro ⟨i, hnode, hpath⟩
    obtain ⟨hi, hnode⟩ := List.getElem?_eq_some_iff.mp hnode
    refine ⟨i, hi, ?_⟩
    rw [hnode, ← hpath]

theorem map_node_children (x : Site) : x.children.map node = x.node.children := by
  apply List.ext_getElem
  · simp [children]
  · intro i _ _
    simp [children]

theorem pairwise_children (x : Site) : x.children.Pairwise Before := by
  rw [List.pairwise_iff_getElem]
  intro i j hi hj hij
  refine ⟨x.path, i, j, [], [], ?_, ?_, hij⟩
  · simp [children]
  · simp [children]

theorem prefix_of_mem_children {x c : Site} (h : c ∈ x.children) : x.path <+: c.path := by
  obtain ⟨i, -, hpath⟩ := mem_children_iff.mp h
  exact ⟨[i], hpath.symm⟩

theorem IsIn.of_mem_children {root : Node} {x c : Site} (hx : x.IsIn root)
    (h : c ∈ x.children) : c.IsIn root := by
  obtain ⟨i, hnode, hpath⟩ := mem_children_iff.mp h
  rw [IsIn, hpath, Node.at?_append, hx]
  simp [Node.at?, hnode]

theorem way_of_mem_children {root : Node} {x c : Site} (hx : x.IsIn root)
    (hc : c ∈ x.children) : root.way c.path = root.way x.path ++ [c.node] := by
  obtain ⟨i, hnode, hpath⟩ := mem_children_iff.mp hc
  rw [hpath, Node.way_append hx]
  simp only [Node.way, hnode]

theorem mem_children_of_child? {x c : Site} {f : Field} (h : x.child? f = some c) :
    c ∈ x.children :=
  List.mem_of_find?_eq_some h

/-- The site `y` is `x`, or a site below it. -/
inductive Reaches (x : Site) : Site → Prop
  | self : Reaches x x
  | child {y c : Site} (hy : Reaches x y) (hc : c ∈ y.children) : Reaches x c

theorem Reaches.prefix_path {x y : Site} (h : x.Reaches y) : x.path <+: y.path := by
  induction h with
  | self => exact List.prefix_refl _
  | child _ hc ih => exact ih.trans (prefix_of_mem_children hc)

theorem Reaches.isIn {root : Node} {y : Site} (h : (top root).Reaches y) : y.IsIn root := by
  induction h with
  | self => rfl
  | child _ hc ih => exact ih.of_mem_children hc

theorem Reaches.trans {x y z : Site} (hxy : x.Reaches y) (hyz : y.Reaches z) : x.Reaches z := by
  induction hyz with
  | self => exact hxy
  | child _ hc ih => exact .child ih hc

theorem Reaches.child? {x y c : Site} {f : Field} (h : x.Reaches y) (hc : y.child? f = some c) :
    x.Reaches c :=
  .child h (mem_children_of_child? hc)

theorem map_node_child? (x : Site) (f : Field) : (x.child? f).map node = x.node.child? f := by
  rw [Node.child?, ← map_node_children, List.find?_map]
  rfl

end Site

/-- The list holds the values that are related to sites, each site once, in order. -/
def Enumerates {α : Type} (R : Site → α → Prop) (l : List α) : Prop :=
  ∃ xs : List (Site × α), xs.map Prod.snd = l ∧ (∀ x a, (x, a) ∈ xs ↔ R x a) ∧
    xs.Pairwise fun u w => u.1.Before w.1

namespace Enumerates

variable {α β : Type} {R S : Site → α → Prop} {l : List α}

theorem none (h : ∀ x a, ¬ R x a) : Enumerates R [] := by
  refine ⟨[], rfl, ?_, List.Pairwise.nil⟩
  intro x a
  simpa using h x a

theorem one (x₀ : Site) {a₀ : α} (h : ∀ x a, R x a ↔ x = x₀ ∧ a = a₀) : Enumerates R [a₀] := by
  refine ⟨[(x₀, a₀)], rfl, ?_, List.pairwise_singleton _ _⟩
  intro x a
  rw [List.mem_singleton, Prod.mk.injEq, h]

theorem congr (h : Enumerates R l) (hiff : ∀ x a, S x a ↔ R x a) : Enumerates S l := by
  obtain ⟨xs, hvalues, hmem, hpair⟩ := h
  refine ⟨xs, hvalues, ?_, hpair⟩
  intro x a
  rw [hmem, hiff]

theorem mem_iff (h : Enumerates R l) {a : α} : a ∈ l ↔ ∃ x, R x a := by
  obtain ⟨xs, rfl, hmem, -⟩ := h
  constructor
  · intro ha
    obtain ⟨⟨x, b⟩, hx, rfl⟩ := List.mem_map.mp ha
    exact ⟨x, (hmem x b).mp hx⟩
  · rintro ⟨x, hx⟩
    exact List.mem_map_of_mem ((hmem x a).mpr hx)

theorem exists_flatMap {T : Site → β → Site → α → Prop} {values : β → List α}
    {ys : List (Site × β)} (hpair : ys.Pairwise fun u w => u.1.Before w.1)
    (henum : ∀ y ∈ ys, Enumerates (T y.1 y.2) (values y.2))
    (hbelow : ∀ y ∈ ys, ∀ x a, T y.1 y.2 x a → y.1.path <+: x.path) :
    Enumerates (fun x a => ∃ y ∈ ys, T y.1 y.2 x a) ((ys.map Prod.snd).flatMap values) := by
  induction ys with
  | nil => exact none (by simp)
  | cons y ys ih =>
      obtain ⟨hfirst, hrest⟩ := List.pairwise_cons.mp hpair
      obtain ⟨head, hhead, hmemHead, hpairHead⟩ := henum y (by simp)
      obtain ⟨tail, htail, hmemTail, hpairTail⟩ :=
        ih hrest (fun z hz => henum z (by simp [hz])) fun z hz => hbelow z (by simp [hz])
      refine ⟨head ++ tail, by simp [hhead, htail], ?_, ?_⟩
      · intro x a
        rw [List.mem_append, hmemHead, hmemTail]
        simp only [List.mem_cons, exists_eq_or_imp]
      · refine List.pairwise_append.mpr ⟨hpairHead, hpairTail, ?_⟩
        rintro ⟨x, a⟩ hx ⟨x', a'⟩ hx'
        obtain ⟨z, hz, hzx⟩ := (hmemTail x' a').mp hx'
        have hbefore := hfirst z hz
        exact hbefore.mono (hbelow y (by simp) x a ((hmemHead x a).mp hx))
          (hbelow z (by simp [hz]) x' a' hzx)

theorem flatMap {Q : Site → β → Prop} {bs : List β} (hbs : Enumerates Q bs)
    {T : Site → β → Site → α → Prop} {values : β → List α}
    (henum : ∀ y b, Q y b → Enumerates (T y b) (values b))
    (hbelow : ∀ y b, Q y b → ∀ x a, T y b x a → y.path <+: x.path) :
    Enumerates (fun x a => ∃ y b, Q y b ∧ T y b x a) (bs.flatMap values) := by
  obtain ⟨ys, rfl, hmem, hpair⟩ := hbs
  refine (exists_flatMap hpair (fun y hy => henum y.1 y.2 ((hmem _ _).mp hy))
    fun y hy => hbelow y.1 y.2 ((hmem _ _).mp hy)).congr ?_
  intro x a
  constructor
  · rintro ⟨y, b, hq, ht⟩
    exact ⟨(y, b), (hmem y b).mpr hq, ht⟩
  · rintro ⟨⟨y, b⟩, hy, ht⟩
    exact ⟨y, b, (hmem y b).mp hy, ht⟩

theorem children (x : Site) :
    Enumerates (fun y c => y ∈ x.children ∧ c = y.node) x.node.children := by
  refine ⟨x.children.map fun y => (y, y.node), ?_, ?_, ?_⟩
  · rw [List.map_map, ← x.map_node_children]
    rfl
  · intro y c
    simp only [List.mem_map, Prod.mk.injEq]
    constructor
    · rintro ⟨z, hz, rfl, rfl⟩
      exact ⟨hz, rfl⟩
    · rintro ⟨hy, rfl⟩
      exact ⟨y, hy, rfl, rfl⟩
  · exact List.pairwise_map.mpr x.pairwise_children

theorem flatMap_children {x : Site} {T : Site → Site → α → Prop} {values : Node → List α}
    (henum : ∀ y ∈ x.children, Enumerates (T y) (values y.node))
    (hbelow : ∀ y ∈ x.children, ∀ z a, T y z a → y.path <+: z.path) :
    Enumerates (fun z a => ∃ y ∈ x.children, T y z a) (x.node.children.flatMap values) := by
  have h : Enumerates (fun z a => ∃ y c, (y ∈ x.children ∧ c = y.node) ∧ T y z a)
      (x.node.children.flatMap values) := by
    refine (children x).flatMap ?_ fun y c hy => hbelow y hy.1
    rintro y c ⟨hy, rfl⟩
    exact henum y hy
  refine h.congr ?_
  intro z a
  constructor
  · rintro ⟨y, hy, ht⟩
    exact ⟨y, y.node, ⟨hy, rfl⟩, ht⟩
  · rintro ⟨y, c, ⟨hy, -⟩, ht⟩
    exact ⟨y, hy, ht⟩

end Enumerates

end SpanWeave.Syntax
