/-
The seeds of a tree by their addresses.

An address says which child to go to, again and again. The seeds of a tree are numbered as they are
planted: a seed comes before its children, and all below a child comes before the next child. Every
number below the count of the seeds is that of exactly one address (`number_injective`,
`exists_number_eq`), and in the list of the nodes that the seeds become the node of a seed stands
under its number and has the number of the seed above it as its parent (`getElem?_nodes`).
-/
import StoryShell.Proofs.Tree.Nodes
import StoryShell.World.Basic

set_option autoImplicit false

namespace StoryShell.Seed

/-! ## Addresses -/

/-- **The seed at an address**: the positions of the children on the way down to it. -/
def below? : Seed → List Nat → Option Seed
  | seed, [] => some seed
  | seed, index :: rest => (seed.children[index]?).bind fun child => child.below? rest

/-- The first step leads to a child. -/
theorem below?_cons_eq_some_iff {seed found : Seed} {index : Nat} {rest : List Nat} :
    seed.below? (index :: rest) = some found
      ↔ ∃ child, seed.children[index]? = some child ∧ child.below? rest = some found := by
  rw [below?, Option.bind_eq_some_iff]

/-- An address is followed part by part. -/
theorem below?_append (seed : Seed) (start rest : List Nat) :
    seed.below? (start ++ rest) = (seed.below? start).bind (·.below? rest) := by
  induction start generalizing seed with
  | nil => rfl
  | cons index start ih =>
    rw [List.cons_append, below?, below?, Option.bind_assoc]
    exact Option.bind_congr fun child _ => ih child

/-- The seed at a longer address is a child of the seed at the address. -/
theorem below?_concat_eq_some_iff {seed child : Seed} {address : List Nat} {index : Nat} :
    seed.below? (address ++ [index]) = some child
      ↔ ∃ holder, seed.below? address = some holder ∧ holder.children[index]? = some child := by
  simp only [below?_append, Option.bind_eq_some_iff, below?, Option.some.injEq, exists_eq_right]

/-- Whether something holds of a seed and of all below it. -/
def All (P : Seed → Prop) (seed : Seed) : Prop :=
  ∀ address found, seed.below? address = some found → P found

/-- Something holds everywhere if it holds at the top and everywhere below. -/
theorem all_iff {P : Seed → Prop} {seed : Seed} :
    seed.All P ↔ P seed ∧ ∀ child ∈ seed.children, child.All P := by
  constructor
  · intro h
    refine ⟨h [] seed rfl, fun child hchild rest found hfound => ?_⟩
    obtain ⟨index, hindex⟩ := List.getElem?_of_mem hchild
    exact h (index :: rest) found (below?_cons_eq_some_iff.2 ⟨child, hindex, hfound⟩)
  · rintro ⟨hseed, hchildren⟩ address found hfound
    cases address with
    | nil =>
      have hsame : seed = found := Option.some.inj hfound
      rwa [← hsame]
    | cons index rest =>
      obtain ⟨child, hchild, hfound⟩ := below?_cons_eq_some_iff.1 hfound
      exact hchildren child (List.mem_of_getElem? hchild) rest found hfound

/-! ## Numbers -/

mutual

/-- How many seeds there are, with all below. -/
def count : Seed → Nat
  | .file _ _ => 1
  | .directory _ _ children => 1 + countAll children

/-- How many seeds there are in a list, with all below. -/
def countAll : List Seed → Nat
  | [] => 0
  | seed :: rest => seed.count + countAll rest

end

theorem count_eq (seed : Seed) : seed.count = 1 + countAll seed.children := by
  cases seed <;> rfl

theorem countAll_append (first second : List Seed) :
    countAll (first ++ second) = countAll first + countAll second := by
  induction first with
  | nil => simp [countAll]
  | cons seed rest ih => rw [List.cons_append, countAll, countAll, ih, Nat.add_assoc]

/-- The seeds before a child and those of the child are all before the next ones. -/
theorem countAll_take_add_le {seeds : List Seed} {child : Seed} {index later : Nat}
    (h : seeds[index]? = some child) (hlater : index < later) :
    countAll (seeds.take index) + child.count ≤ countAll (seeds.take later) := by
  have hsplit : seeds.take later
      = seeds.take index ++ child :: (seeds.take later).drop (index + 1) := by
    obtain ⟨hlt, hchild⟩ := List.getElem?_eq_some_iff.1 h
    have hshort : index < (seeds.take later).length := by
      rw [List.length_take]
      omega
    have htake : (seeds.take later).take index = seeds.take index := by
      rw [List.take_take, Nat.min_eq_left (Nat.le_of_lt hlater)]
    have hget : (seeds.take later)[index] = child := by rw [List.getElem_take, hchild]
    rw [← hget, ← htake, ← List.drop_eq_getElem_cons hshort, List.take_append_drop]
  rw [hsplit, countAll_append, countAll]
  omega

/-- **The number of an address**: how many seeds come before the one that is there. -/
def number : Seed → List Nat → Nat
  | _, [] => 0
  | seed, index :: rest =>
    match seed.children[index]? with
    | none => 0
    | some child => 1 + countAll (seed.children.take index) + child.number rest

theorem number_cons {seed child : Seed} {index : Nat} (h : seed.children[index]? = some child)
    (rest : List Nat) :
    seed.number (index :: rest) = 1 + countAll (seed.children.take index) + child.number rest := by
  rw [number, h]

/-- There are more seeds than come before one. -/
theorem number_lt_count {seed found : Seed} {address : List Nat}
    (h : seed.below? address = some found) : seed.number address < seed.count := by
  induction address generalizing seed with
  | nil =>
    rw [number, count_eq]
    omega
  | cons index rest ih =>
    obtain ⟨child, hchild, hfound⟩ := below?_cons_eq_some_iff.1 h
    have hlt := ih hfound
    have hle := countAll_take_add_le hchild (List.getElem?_eq_some_iff.1 hchild).1
    rw [List.take_length] at hle
    rw [number_cons hchild, count_eq]
    omega

/-- **Different seeds have different numbers.** -/
theorem number_injective {seed found other : Seed} {address second : List Nat}
    (h : seed.below? address = some found) (hother : seed.below? second = some other)
    (hsame : seed.number address = seed.number second) : address = second := by
  induction address generalizing seed second with
  | nil =>
    cases second with
    | nil => rfl
    | cons index rest =>
      obtain ⟨child, hchild, -⟩ := below?_cons_eq_some_iff.1 hother
      rw [number, number_cons hchild] at hsame
      omega
  | cons index rest ih =>
    obtain ⟨child, hchild, hfound⟩ := below?_cons_eq_some_iff.1 h
    rw [number_cons hchild] at hsame
    cases second with
    | nil =>
      rw [number] at hsame
      omega
    | cons position more =>
      obtain ⟨sibling, hsibling, hmore⟩ := below?_cons_eq_some_iff.1 hother
      rw [number_cons hsibling] at hsame
      have hhere := number_lt_count hfound
      have hthere := number_lt_count hmore
      -- what lies below one child comes before all that lies below a later one
      rcases Nat.lt_trichotomy index position with hbefore | rfl | hbehind
      · have hle := countAll_take_add_le hchild hbefore
        omega
      · have hchildren : child = sibling := Option.some.inj (hchild.symm.trans hsibling)
        subst hchildren
        rw [ih hfound hmore (by omega)]
      · have hle := countAll_take_add_le hsibling hbehind
        omega

mutual

/-- **Every number is that of a seed**, if it is below the count. -/
theorem exists_number_eq : (seed : Seed) → ∀ number < seed.count,
    ∃ address found, seed.below? address = some found ∧ seed.number address = number
  | .file name text, number, hlt => by
    have hzero : number = 0 := Nat.lt_one_iff.1 hlt
    exact ⟨[], _, rfl, hzero.symm⟩
  | .directory name text children, number, hlt => by
    cases number with
    | zero => exact ⟨[], _, rfl, rfl⟩
    | succ number =>
      rw [count] at hlt
      obtain ⟨index, child, address, found, hchild, hfound, hnumber⟩ :=
        exists_number_of_lt_countAll children number (by omega)
      refine ⟨index :: address, found, below?_cons_eq_some_iff.2 ⟨child, hchild, hfound⟩, ?_⟩
      have hsame : (Seed.directory name text children).number (index :: address)
          = 1 + countAll (children.take index) + child.number address := number_cons hchild address
      omega

/-- Every number is that of a seed below one of a list. -/
theorem exists_number_of_lt_countAll : (seeds : List Seed) → ∀ number < countAll seeds,
    ∃ index child address found, seeds[index]? = some child ∧ child.below? address = some found
      ∧ countAll (seeds.take index) + child.number address = number
  | [], number, hlt => absurd hlt (Nat.not_lt_zero number)
  | seed :: rest, number, hlt => by
    by_cases hfirst : number < seed.count
    · obtain ⟨address, found, hfound, hnumber⟩ := exists_number_eq seed number hfirst
      refine ⟨0, seed, address, found, rfl, hfound, ?_⟩
      rw [List.take_zero, countAll, Nat.zero_add, hnumber]
    · rw [countAll] at hlt
      obtain ⟨index, child, address, found, hchild, hfound, hnumber⟩ :=
        exists_number_of_lt_countAll rest (number - seed.count) (by omega)
      refine ⟨index + 1, child, address, found, hchild, hfound, ?_⟩
      rw [List.take_succ_cons, countAll]
      omega

end

/-! ## Nodes -/

/-- **The node that a seed becomes**, before it has children. -/
def node (parent : Option NodeId) : Seed → Node
  | .file name text => ⟨name, parent, .file text⟩
  | .directory name _ _ => ⟨name, parent, .directory NameMap.empty⟩

mutual

/-- **The nodes that a seed and all below it become**, when the first of them has a given number. -/
def nodes (parent : Option NodeId) (first : NodeId) : Seed → List Node
  | .file name text => [node parent (.file name text)]
  | .directory name text children =>
    node parent (.directory name text children) :: nodesAll first (first + 1) children

/-- The nodes that the seeds of a directory and all below them become. -/
def nodesAll (parent first : NodeId) : List Seed → List Node
  | [] => []
  | seed :: rest => seed.nodes (some parent) first ++ nodesAll parent (first + seed.count) rest

end

theorem nodes_eq (parent : Option NodeId) (first : NodeId) (seed : Seed) :
    seed.nodes parent first = seed.node parent :: nodesAll first (first + 1) seed.children := by
  cases seed with
  | file name text => rfl
  | directory name text children => rfl

mutual

theorem length_nodes (parent : Option NodeId) (first : NodeId) :
    (seed : Seed) → (seed.nodes parent first).length = seed.count
  | .file name text => rfl
  | .directory name text children => by
    rw [nodes, List.length_cons, length_nodesAll, count, Nat.add_comm]

theorem length_nodesAll (parent first : NodeId) :
    (seeds : List Seed) → (nodesAll parent first seeds).length = countAll seeds
  | [] => rfl
  | seed :: rest => by
    rw [nodesAll, List.length_append, length_nodes, length_nodesAll, countAll]

end

/-- The nodes of a child stand behind those of the children before it. -/
theorem getElem?_nodesAll {seeds : List Seed} {child : Seed} {index : Nat}
    (h : seeds[index]? = some child) (parent first : NodeId) {offset : Nat}
    (hoffset : offset < child.count) :
    (nodesAll parent first seeds)[countAll (seeds.take index) + offset]?
      = (child.nodes (some parent) (first + countAll (seeds.take index)))[offset]? := by
  induction seeds generalizing index first with
  | nil => simp at h
  | cons seed rest ih =>
    cases index with
    | zero =>
      have hseed : seed = child := Option.some.inj h
      subst hseed
      rw [List.take_zero, countAll, Nat.zero_add, Nat.add_zero, nodesAll, List.getElem?_append_left]
      rwa [length_nodes]
    | succ index =>
      rw [List.getElem?_cons_succ] at h
      rw [List.take_succ_cons, countAll, nodesAll, List.getElem?_append_right, length_nodes]
      · have hrest := ih h (first + seed.count)
        rw [Nat.add_assoc first] at hrest
        rw [← hrest]
        congr 1
        omega
      · rw [length_nodes]
        omega

/-- The number of the seed above an address; at the top this is what the tree is planted in. -/
def holder (seed : Seed) (parent : Option NodeId) (first : NodeId) (address : List Nat) :
    Option NodeId :=
  if address = [] then parent else some (first + seed.number address.dropLast)

/-- **The node of a seed stands under its number**, and its parent is the seed above it. -/
theorem getElem?_nodes {seed found : Seed} {address : List Nat}
    (h : seed.below? address = some found) (parent : Option NodeId) (first : NodeId) :
    (seed.nodes parent first)[seed.number address]?
      = some (found.node (seed.holder parent first address)) := by
  induction address generalizing seed parent first with
  | nil =>
    have hseed : seed = found := Option.some.inj h
    rw [nodes_eq, number, List.getElem?_cons_zero, hseed]
    rfl
  | cons index rest ih =>
    obtain ⟨child, hchild, hfound⟩ := below?_cons_eq_some_iff.1 h
    have hnode := ih hfound (some first) (first + 1 + countAll (seed.children.take index))
    rw [← getElem?_nodesAll hchild _ _ (number_lt_count hfound)] at hnode
    have hindex : seed.number (index :: rest)
        = countAll (seed.children.take index) + child.number rest + 1 := by
      rw [number_cons hchild]
      omega
    -- the child is planted in the seed itself, and what is below it in what is above that
    have hholder : child.holder (some first) (first + 1 + countAll (seed.children.take index)) rest
        = seed.holder parent first (index :: rest) := by
      rw [holder, holder, if_neg (List.cons_ne_nil _ _)]
      cases rest with
      | nil => rfl
      | cons position more =>
        rw [if_neg (List.cons_ne_nil _ _), List.dropLast_cons_cons, number_cons hchild]
        simp only [Nat.add_assoc]
    rw [hindex, nodes_eq, List.getElem?_cons_succ, hnode, hholder]

end StoryShell.Seed
