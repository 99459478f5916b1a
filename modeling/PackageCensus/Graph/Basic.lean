/-! # Graphs of packages

A `Graph` is a set of packages, one for each id, with the ids that each imports.  It is held in
order of ids, so that two graphs with the same packages are equal and nothing that is shown of a
graph depends on how it came about.  An import may name a package that the graph does not hold;
it stays listed and gives no edge.

`get?_insert` and its companions say what each operation does to look-up, and `ext_get?` that
look-up determines the graph. -/

namespace PackageCensus

/-- A package and the ids it imports, in the order of their declaration. -/
structure Package where
  id : String
  imports : List String
deriving DecidableEq, Repr

/-- Packages in strictly increasing order of ids. -/
structure Graph where
  packages : List Package
  increasing : packages.Pairwise fun p q => p.id < q.id
deriving DecidableEq

namespace Graph

/-! ### The order of ids -/

theorem lt_of_not_lt_of_ne {a b : String} (h : ¬ a < b) (hne : a ≠ b) : b < a := by
  apply Decidable.byContradiction
  intro h'
  exact hne (String.le_antisymm (String.not_lt.mp h') (String.not_lt.mp h))

/-- A package put in its place among packages in order; one of the same id gives way. -/
def place (p : Package) : List Package → List Package
  | [] => [p]
  | q :: rest =>
    if p.id < q.id then p :: q :: rest
    else if p.id = q.id then p :: rest
    else q :: place p rest

theorem mem_place {p r : Package} : ∀ {l : List Package}, r ∈ place p l → r = p ∨ r ∈ l
  | [], h => by simp [place] at h; exact .inl h
  | q :: rest, h => by
    unfold place at h
    split at h
    · simpa using h
    · split at h
      · simp only [List.mem_cons] at h
        exact h.imp id (by simp +contextual)
      · simp only [List.mem_cons] at h
        rcases h with h | h
        · simp [h]
        · exact (mem_place h).imp id (by simp +contextual)

theorem place_increasing (p : Package) : ∀ {l : List Package},
    l.Pairwise (fun p q => p.id < q.id) → (place p l).Pairwise fun p q => p.id < q.id
  | [], _ => by simp [place]
  | q :: rest, h => by
    have hrest := List.pairwise_cons.mp h
    unfold place
    split
    · next hlt =>
      refine List.pairwise_cons.mpr ⟨fun r hr => ?_, h⟩
      rcases List.mem_cons.mp hr with rfl | hr
      · exact hlt
      · exact String.lt_trans hlt (hrest.1 r hr)
    · next hlt =>
      split
      · next heq => exact List.pairwise_cons.mpr ⟨fun r hr => heq ▸ hrest.1 r hr, hrest.2⟩
      · next hne =>
        refine List.pairwise_cons.mpr ⟨fun r hr => ?_, place_increasing p hrest.2⟩
        rcases mem_place hr with rfl | hr
        · exact lt_of_not_lt_of_ne hlt hne
        · exact hrest.1 r hr

/-! ### Building and looking up -/

/-- The graph of no packages. -/
def empty : Graph := ⟨[], .nil⟩

instance : Inhabited Graph := ⟨empty⟩

/-- The package with an id. -/
def get? (g : Graph) (id : String) : Option Package := g.packages.find? (·.id == id)

/-- Whether a graph holds a package with an id. -/
def contains (g : Graph) (id : String) : Bool := g.packages.any (·.id == id)

/-- The number of packages. -/
def size (g : Graph) : Nat := g.packages.length

/-- The ids, in order. -/
def ids (g : Graph) : List String := g.packages.map (·.id)

/-- A graph with a package added; one of the same id gives way. -/
def insert (g : Graph) (p : Package) : Graph :=
  ⟨place p g.packages, place_increasing p g.increasing⟩

/-- The graph of some packages; of those with equal ids the last stays. -/
def ofList (packages : List Package) : Graph := packages.foldl insert empty

/-- The packages whose ids satisfy a test. -/
def restrict (g : Graph) (keep : String → Bool) : Graph :=
  ⟨g.packages.filter (keep ·.id), g.increasing.filter _⟩

/-! ### Operations on two graphs -/

/-- The packages whose ids the other graph does not hold. -/
def subtract (g h : Graph) : Graph := g.restrict fun id => ! h.contains id

/-- Two import lists made one: the first, and then what only the second lists, each once. -/
def mergeImports (first second : List String) : List String :=
  second.foldl (fun all id => if all.contains id then all else all ++ [id]) first

/-- A graph with a package added; if it holds one of the same id, that one gains the imports. -/
def merge (g : Graph) (p : Package) : Graph :=
  match g.get? p.id with
  | some q => g.insert { q with imports := mergeImports q.imports p.imports }
  | none => g.insert p

/-- The packages of either graph. -/
def union (g h : Graph) : Graph := h.packages.foldl merge g

/-- The pairs of an importing and an imported package, both held, in order of the first and then
of its import list. -/
def edges (g : Graph) : List (String × String) :=
  g.packages.flatMap fun p => (p.imports.filter g.contains).map (p.id, ·)

/-! ### Look-up -/

@[simp] theorem get?_empty (id : String) : empty.get? id = none := rfl

theorem find?_place (p : Package) (id : String) : ∀ l : List Package,
    (place p l).find? (·.id == id) = if p.id = id then some p else l.find? (·.id == id)
  | [] => by by_cases h : p.id = id <;> simp [place, h]
  | q :: rest => by
    unfold place
    split
    · next hlt =>
      by_cases h : p.id = id <;> simp [h]
    · split
      · next heq =>
        by_cases h : p.id = id
        · simp [h]
        · simp [h, show q.id ≠ id from fun hq => h (heq.trans hq)]
      · next hne =>
        by_cases hq : q.id = id
        · have : p.id ≠ id := fun hp => hne (hp.trans hq.symm)
          simp [hq, this]
        · simp [hq, find?_place p id rest]

theorem get?_insert (g : Graph) (p : Package) (id : String) :
    (g.insert p).get? id = if p.id = id then some p else g.get? id :=
  find?_place p id g.packages

theorem get?_id {g : Graph} {id : String} {p : Package} (h : g.get? id = some p) : p.id = id := by
  have := List.find?_some h
  simpa using this

theorem contains_eq (g : Graph) (id : String) : g.contains id = (g.get? id).isSome := by
  rw [Bool.eq_iff_iff]
  simp [contains, get?, List.find?_isSome]

theorem contains_iff {g : Graph} {id : String} :
    g.contains id = true ↔ ∃ p ∈ g.packages, p.id = id := by simp [contains]

theorem contains_insert (g : Graph) (p : Package) (id : String) :
    (g.insert p).contains id = (p.id == id || g.contains id) := by
  rw [contains_eq, contains_eq, get?_insert]
  by_cases h : p.id = id <;> simp [h]

theorem mem_insert {g : Graph} {p r : Package} (h : r ∈ (g.insert p).packages) :
    r = p ∨ r ∈ g.packages := mem_place h

theorem mem_of_get? {g : Graph} {id : String} {p : Package} (h : g.get? id = some p) :
    p ∈ g.packages := List.mem_of_find?_eq_some h

theorem find?_of_mem {p : Package} : ∀ {l : List Package},
    l.Pairwise (fun p q => p.id < q.id) → p ∈ l → l.find? (·.id == p.id) = some p
  | q :: rest, h, hp => by
    have hrest := List.pairwise_cons.mp h
    rcases List.mem_cons.mp hp with rfl | hp
    · simp
    · have hne : q.id ≠ p.id := fun he => String.lt_irrefl p.id (he ▸ hrest.1 p hp)
      simp [hne, find?_of_mem hrest.2 hp]

theorem get?_of_mem {g : Graph} {p : Package} (h : p ∈ g.packages) : g.get? p.id = some p :=
  find?_of_mem g.increasing h

/-! ### Graphs with the same packages -/

theorem eq_of_mem_iff : ∀ {l m : List Package}, l.Pairwise (fun p q => p.id < q.id) →
    m.Pairwise (fun p q => p.id < q.id) → (∀ p, p ∈ l ↔ p ∈ m) → l = m
  | [], [], _, _, _ => rfl
  | [], q :: _, _, _, h => by simpa using (h q).mpr (by simp)
  | p :: _, [], _, _, h => by simpa using (h p).mp (by simp)
  | p :: l, q :: m, hl, hm, h => by
    have hl' := List.pairwise_cons.mp hl
    have hm' := List.pairwise_cons.mp hm
    have hpq : p = q := by
      rcases List.mem_cons.mp ((h p).mp (by simp)) with hp | hp
      · exact hp
      · rcases List.mem_cons.mp ((h q).mpr (by simp)) with hq | hq
        · exact hq.symm
        · exact absurd (String.lt_trans (hm'.1 p hp) (hl'.1 q hq)) (String.lt_irrefl q.id)
    subst hpq
    have hnl : p ∉ l := fun hp => String.lt_irrefl p.id (hl'.1 p hp)
    have hnm : p ∉ m := fun hp => String.lt_irrefl p.id (hm'.1 p hp)
    rw [eq_of_mem_iff hl'.2 hm'.2 fun r => ?_]
    have := h r
    simp only [List.mem_cons] at this
    by_cases hr : r = p
    · subst hr; simp [hnl, hnm]
    · simpa [hr] using this

theorem ext_get? {g h : Graph} (eq : ∀ id, g.get? id = h.get? id) : g = h := by
  have := eq_of_mem_iff g.increasing h.increasing fun p =>
    ⟨fun hp => mem_of_get? ((eq p.id) ▸ get?_of_mem hp),
      fun hp => mem_of_get? ((eq p.id).symm ▸ get?_of_mem hp)⟩
  cases g; cases h; simpa using this

end Graph
end PackageCensus
