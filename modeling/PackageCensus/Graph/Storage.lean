import PackageCensus.Graph.Basic

/-! # Graphs as they are stored

A `Storage` keeps packages under keys, no two of them equal, in an order that means nothing.  The
key of a package is another copy of its id, and of the operations some go by the one and some by
the other: `subtract` and `merge` ask for the id of a package, `contains` and `edges` look at
keys, `sorted` compares ids.  Those that go through a storage meet its packages in the order in
which they are listed, whatever it is.

`Graph` has the same operations on packages in order of their ids. -/

namespace PackageCensus

/-- Packages under keys, listed in any order. -/
structure Storage where
  entries : List (String × Package)
  distinct : (entries.map (·.1)).Nodup

namespace Storage

/-- The storage of no packages. -/
def empty : Storage := ⟨[], .nil⟩

instance : Inhabited Storage := ⟨empty⟩

/-- The package under a key. -/
def get? (s : Storage) (key : String) : Option Package :=
  (s.entries.find? (·.1 == key)).map (·.2)

/-- Whether there is a package under a key. -/
def contains (s : Storage) (key : String) : Bool := s.entries.any (·.1 == key)

/-- The number of packages. -/
def size (s : Storage) : Nat := s.entries.length

/-- The packages, as they are listed. -/
def packages (s : Storage) : List Package := s.entries.map (·.2)

/-- Whether a package may stand before another by its id. -/
def notAfter (p q : Package) : Bool := decide (p.id ≤ q.id)

/-- The packages in order of their ids. -/
def sorted (s : Storage) : List Package := s.packages.mergeSort notAfter

/-- Whether two storages have the same packages under the same keys. -/
def equal (s t : Storage) : Bool :=
  s.size == t.size && s.entries.all fun e => t.get? e.1 == some e.2

/-! ### Putting packages in -/

/-- What was under a key, and the entries with a package under it. -/
def exchange (key : String) (p : Package) :
    List (String × Package) → Option Package × List (String × Package)
  | [] => (none, [(key, p)])
  | e :: rest =>
    if e.1 = key then (some e.2, (key, p) :: rest)
    else ((exchange key p rest).1, e :: (exchange key p rest).2)

theorem keys_exchange (key : String) (p : Package) : ∀ entries : List (String × Package),
    (exchange key p entries).2.map (·.1) =
      if key ∈ entries.map (·.1) then entries.map (·.1) else entries.map (·.1) ++ [key]
  | [] => rfl
  | e :: rest => by
    unfold exchange
    by_cases h : e.1 = key
    · simp [h]
    · rw [if_neg h, List.map_cons, List.map_cons, keys_exchange key p rest]
      by_cases hr : key ∈ rest.map (·.1)
      · rw [if_pos hr, if_pos (.tail _ hr)]
      · have hk : key ∉ e.1 :: rest.map (·.1) := by
          rw [List.mem_cons, not_or]
          exact ⟨Ne.symm h, hr⟩
        rw [if_neg hr, if_neg hk, List.cons_append]

theorem distinct_exchange (key : String) (p : Package) {entries : List (String × Package)}
    (h : (entries.map (·.1)).Nodup) : ((exchange key p entries).2.map (·.1)).Nodup := by
  rw [keys_exchange]
  split
  · exact h
  · next fresh =>
    refine List.nodup_append.mpr ⟨h, by simp, fun a ha b hb => ?_⟩
    rw [List.mem_singleton] at hb
    subst hb
    exact fun he => fresh (he ▸ ha)

/-- Puts a package under its id, and tells which one was there before. -/
def insert (s : Storage) (p : Package) : Option Package × Storage :=
  let changed := exchange p.id p s.entries
  (changed.1, ⟨changed.2, distinct_exchange p.id p s.distinct⟩)

/-- The storage of some packages; of those with equal ids the last stays. -/
def ofList (packages : List Package) : Storage := packages.foldl (fun s p => (s.insert p).2) empty

/-! ### Operations on two storages -/

/-- The packages whose ids are no keys of the other storage. -/
def subtract (s t : Storage) : Storage := ofList (s.packages.filter fun p => ! t.contains p.id)

/-- An entry; if it is the one under a key, its package gains imports. -/
def gain (key : String) (imports : List String) (e : String × Package) : String × Package :=
  if e.1 = key then (e.1, { e.2 with imports := Graph.mergeImports e.2.imports imports }) else e

theorem gain_fst (key : String) (imports : List String) (e : String × Package) :
    (gain key imports e).1 = e.1 := by
  unfold gain
  split <;> rfl

/-- A storage whose package under a key gains imports, where it stands. -/
def extend (s : Storage) (key : String) (imports : List String) : Storage where
  entries := s.entries.map (gain key imports)
  distinct := by
    rw [List.map_map]
    exact (List.map_congr_left fun e _ => gain_fst key imports e) ▸ s.distinct

/-- A storage with a package put in; if its id is a key, the package there gains the imports. -/
def merge (s : Storage) (p : Package) : Storage :=
  if s.contains p.id then s.extend p.id p.imports else (s.insert p).2

/-- The packages of either storage. -/
def union (s t : Storage) : Storage := t.packages.foldl merge s

/-- The pairs of an importing and an imported package, the second a key, in order of the first and
then of its import list. -/
def edges (s : Storage) : List (String × String) :=
  s.sorted.flatMap fun p => (p.imports.filter s.contains).map (p.id, ·)

/-! ### Closures -/

/-- What a walk along imports puts into a storage: the ids in the queue are looked up one by one,
and each package goes in after those of its imports that are no keys yet have joined the queue.
A refusal ends the walk. -/
inductive Fills {ε : Type} (ask : String → Except ε (List String)) :
    List String → Storage → Except ε Storage → Prop
  | done (s : Storage) : Fills ask [] s (.ok s)
  | held {id : String} {rest : List String} {s : Storage} {result : Except ε Storage} :
    s.contains id = true → Fills ask rest s result → Fills ask (id :: rest) s result
  | refused {id : String} {rest : List String} {s : Storage} {e : ε} :
    s.contains id = false → ask id = .error e → Fills ask (id :: rest) s (.error e)
  | resolved {id : String} {rest imports : List String} {s : Storage}
    {result : Except ε Storage} :
    s.contains id = false → ask id = .ok imports →
    Fills ask (rest ++ imports.filter fun dep => ! s.contains dep) (s.insert ⟨id, imports⟩).2
      result →
    Fills ask (id :: rest) s result

end Storage
end PackageCensus
