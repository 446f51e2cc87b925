import DiskLayout.Proofs.Table.Nodes
import DiskLayout.Table.Visitor

/-!
# Places in a table

Nodes may be equal without being the same, as two volumes without name and content are.  So nodes
are told apart by their places: one gets to a node from its partition by taking, at each node on
the way, one of its children.  The nodes on the way are those around it, and a walk visits each
place once.

## Main definitions

* `Visit.children`, `Visit.subtree` — the visits right below a visit, and all from there on
* `Visit.descend?`, `PartitionTable.visitAt?`, `PartitionTable.nodeAt?` — what is at a place
* `WalkOrder.Precedes` — the order of places in a walk
* `WalkOrder.Lists` — the visits at all places in this order

## Main results

* `Visit.subtree_eq` — a visit, and then or before what is below its children
* `Visit.induction` — a property of visits follows from the visits right below
* `PartitionTable.ancestors_of_visitAt?` — the nodes around a visit are those above its place
* `PartitionTable.lists_visits` — a walk visits every place once, in order
-/

namespace DiskLayout

/-! ### The tree of visits -/

/-- The visits of a node that lies inside `ancestors` and of everything inside it. -/
def Node.visits (order : WalkOrder) (ancestors : List Node) : Node → List Visit
  | .partition index holder =>
    order.arrange ⟨.partition index holder, ancestors⟩
      (holder.payload.toList.flatMap
        (Payload.visits order (ancestors ++ [.partition index holder])))
  | .filesystem system => (Payload.filesystem system).visits order ancestors
  | .volumeGroup group => (Payload.volumeGroup group).visits order ancestors
  | .logicalVolume volume => volume.visits order ancestors
  | .btrfs volume => (Payload.btrfs volume).visits order ancestors
  | .subvolume volume => [⟨.subvolume volume, ancestors⟩]
  | .swap space => (Payload.swap space).visits order ancestors
  | .luks container => (Payload.luks container).visits order ancestors

theorem Payload.visits_node (order : WalkOrder) (ancestors : List Node) (payload : Payload) :
    payload.node.visits order ancestors = payload.visits order ancestors := by
  cases payload <;> rfl

/-- A walk visits a node, and before or behind it what is inside its children. -/
theorem Node.visits_eq (order : WalkOrder) (ancestors : List Node) (node : Node) :
    node.visits order ancestors =
      order.arrange ⟨node, ancestors⟩
        (node.children.flatMap (visits order (ancestors ++ [node]))) := by
  cases node with
  | partition index holder =>
    rw [visits, children, List.flatMap_map]
    simp only [Payload.visits_node]
  | logicalVolume volume =>
    rw [visits, LogicalVolume.visits_eq, children, List.flatMap_map]
    simp only [Payload.visits_node]
  | volumeGroup group =>
    rw [visits, Payload.visits_volumeGroup, logicalVolumeVisits_eq_flatMap, children,
      List.flatMap_map]
    rfl
  | btrfs volume =>
    rw [visits, Payload.visits_btrfs, children, List.flatMap_map, List.map_eq_flatMap]
    rfl
  | luks container =>
    rw [visits, Payload.visits_luks, children, List.flatMap_singleton, Payload.visits_node]
  | filesystem system | subvolume volume | swap space => cases order <;> rfl

namespace Visit

/-- The visits right below a visit: of the nodes directly inside its node, in order. -/
def children (root : Visit) : List Visit :=
  root.node.children.map fun child => ⟨child, root.ancestors ++ [root.node]⟩

/-- The visits of a walk from a visit on. -/
def subtree (order : WalkOrder) (root : Visit) : List Visit :=
  root.node.visits order root.ancestors

theorem subtree_eq (order : WalkOrder) (root : Visit) :
    root.subtree order = order.arrange root (root.children.flatMap (subtree order)) := by
  rw [subtree, Node.visits_eq, children, List.flatMap_map]
  rfl

/-- A property of visits holds of all of them if it passes from the visits right below a visit to
the visit itself. -/
theorem induction {motive : Visit → Prop}
    (step : ∀ root, (∀ child ∈ root.children, motive child) → motive root) (root : Visit) :
    motive root := by
  refine step root fun child hchild => ?_
  obtain ⟨node, hnode, rfl⟩ := List.mem_map.1 hchild
  exact induction step _
termination_by root.node
decreasing_by exact Node.sizeOf_lt_of_mem_children hnode

/-- The visit that one gets to by taking children at the given positions. -/
def descend? (root : Visit) : List Nat → Option Visit
  | [] => some root
  | position :: positions => root.children[position]?.bind fun child => child.descend? positions

end Visit

/-- The visit at a place: the first position is that of a partition, the others are positions of
children, from the outside inwards. -/
def PartitionTable.visitAt? (table : PartitionTable) : List Nat → Option Visit
  | [] => none
  | index :: positions =>
    table.partitions[index]?.bind fun partition =>
      Visit.descend? ⟨.partition index partition, []⟩ positions

/-- The node at a place. -/
def PartitionTable.nodeAt? (table : PartitionTable) (place : List Nat) : Option Node :=
  (table.visitAt? place).map Visit.node

/-! ### The nodes around a place -/

/-- On the way down, each visit puts its node around those below. -/
theorem Visit.ancestors_of_descend? {root visit : Visit} {positions : List Nat}
    (h : root.descend? positions = some visit) :
    ∃ way, visit.ancestors = root.ancestors ++ way ∧ way.map some =
      (List.range positions.length).map fun depth =>
        (root.descend? (positions.take depth)).map Visit.node := by
  induction positions generalizing root with
  | nil =>
    obtain rfl := Option.some.inj h
    exact ⟨[], (List.append_nil _).symm, rfl⟩
  | cons position positions ih =>
    obtain ⟨child, hchild, hvisit⟩ := Option.bind_eq_some_iff.1 h
    obtain ⟨way, hancestors, hway⟩ := ih hvisit
    have hroot : child.ancestors = root.ancestors ++ [root.node] := by
      obtain ⟨node, -, rfl⟩ := List.mem_map.1 (List.mem_of_getElem? hchild)
      rfl
    refine ⟨root.node :: way, ?_, ?_⟩
    · rw [hancestors, hroot, List.append_assoc, List.singleton_append]
    · rw [List.map_cons, hway, List.length_cons, List.range_succ_eq_map, List.map_cons,
        List.map_map]
      simp [descend?, hchild, Function.comp_def]

/-- The nodes around a visit are those at the places above its own, from its partition inwards. -/
theorem PartitionTable.ancestors_of_visitAt? {table : PartitionTable} {index : Nat}
    {positions : List Nat} {visit : Visit} (h : table.visitAt? (index :: positions) = some visit) :
    visit.ancestors.map some =
      (List.range positions.length).map fun depth =>
        table.nodeAt? (index :: positions.take depth) := by
  obtain ⟨partition, hpartition, hvisit⟩ := Option.bind_eq_some_iff.1 h
  obtain ⟨way, hancestors, hway⟩ := Visit.ancestors_of_descend? hvisit
  rw [hancestors, List.nil_append, hway]
  simp [nodeAt?, visitAt?, hpartition]

/-! ### The order of places -/

namespace WalkOrder

/-- Whether one place comes before another in a walk.  A place above another one comes before or
behind it, as the order of the walk has it; otherwise the first position that differs decides. -/
def Precedes (order : WalkOrder) : List Nat → List Nat → Prop
  | [], [] => False
  | [], _ :: _ => order = .parentsFirst
  | _ :: _, [] => order = .childrenFirst
  | position :: positions, other :: others =>
    position < other ∨ position = other ∧ order.Precedes positions others

theorem not_precedes_self (order : WalkOrder) (place : List Nat) :
    ¬ order.Precedes place place := by
  induction place with
  | nil => exact not_false
  | cons position positions ih => simpa [Precedes] using ih

/-- Whether visits are those that a function gives at places, each place once and in order. -/
def Lists (order : WalkOrder) (visitAt? : List Nat → Option Visit) (visits : List Visit) : Prop :=
  ∃ placed : List (List Nat × Visit), placed.map Prod.snd = visits ∧
    (∀ place visit, (place, visit) ∈ placed ↔ visitAt? place = some visit) ∧
    placed.Pairwise fun first second => order.Precedes first.1 second.1

variable {order : WalkOrder}

/-- The visits below several roots, where the first position of a place chooses the root. -/
theorem lists_flatMap {roots : List Visit} {visits : Visit → List Visit}
    {visitAt? : List Nat → Option Visit} (hnil : visitAt? [] = none)
    (hcons : ∀ position positions, visitAt? (position :: positions) =
      roots[position]?.bind fun root => root.descend? positions)
    (h : ∀ root ∈ roots, order.Lists root.descend? (visits root)) :
    order.Lists visitAt? (roots.flatMap visits) := by
  choose! placed hvisits hmem hpairwise using h
  -- The place of a visit is the position of its root and then the place below that root.
  have hroot : ∀ entry ∈ roots.zipIdx, entry.1 ∈ roots := fun entry hentry =>
    List.mem_of_getElem? (List.mem_zipIdx_iff_getElem?.1 hentry)
  refine ⟨roots.zipIdx.flatMap fun entry =>
    (placed entry.1).map fun item => (entry.2 :: item.1, item.2), ?_, ?_, ?_⟩
  · calc
      _ = roots.zipIdx.flatMap fun entry => visits entry.1 := by
        rw [List.map_flatMap]
        refine List.flatMap_congr fun entry hentry => ?_
        rw [List.map_map, ← hvisits entry.1 (hroot entry hentry)]
        rfl
      _ = (roots.zipIdx.map Prod.fst).flatMap visits := by rw [List.flatMap_map]
      _ = roots.flatMap visits := by rw [List.zipIdx_map_fst]
  · intro place visit
    cases place with
    | nil => simp [hnil]
    | cons position positions =>
      rw [hcons, Option.bind_eq_some_iff, List.mem_flatMap]
      constructor
      · rintro ⟨⟨root, index⟩, hentry, hitem⟩
        obtain ⟨⟨others, other⟩, hplaced, heq⟩ := List.mem_map.1 hitem
        obtain ⟨⟨rfl, rfl⟩, rfl⟩ := by simpa using heq
        exact ⟨root, List.mem_zipIdx_iff_getElem?.1 hentry,
          (hmem root (hroot _ hentry) others other).1 hplaced⟩
      · rintro ⟨root, hget, hvisit⟩
        refine ⟨(root, position), List.mem_zipIdx_iff_getElem?.2 hget, List.mem_map.2 ?_⟩
        exact ⟨_, (hmem root (List.mem_of_getElem? hget) positions visit).2 hvisit, rfl⟩
  · rw [List.pairwise_flatMap]
    refine ⟨fun entry hentry => ?_, ?_⟩
    · rw [List.pairwise_map]
      exact (hpairwise entry.1 (hroot entry hentry)).imp fun hprecedes => .inr ⟨rfl, hprecedes⟩
    · have hpositions : (roots.zipIdx.map Prod.snd).Pairwise (· < ·) := by
        rw [List.zipIdx_map_snd]
        exact List.pairwise_lt_range'
      refine (List.pairwise_map.1 hpositions).imp fun hlt first hfirst second hsecond => ?_
      obtain ⟨_, -, rfl⟩ := List.mem_map.1 hfirst
      obtain ⟨_, -, rfl⟩ := List.mem_map.1 hsecond
      exact .inl hlt

/-- The visits below a root are at the places that one gets to from there. -/
theorem lists_subtree (root : Visit) : order.Lists root.descend? (root.subtree order) := by
  induction root using Visit.induction with
  | step root ih =>
    have hbelow : order.Lists (fun place => if place = [] then none else root.descend? place)
        (root.children.flatMap (Visit.subtree order)) :=
      lists_flatMap rfl (fun _ _ => if_neg (List.cons_ne_nil _ _)) ih
    obtain ⟨placed, hvisits, hmem, hpairwise⟩ := hbelow
    -- Only the root is at no position, so it can stand in front of the others or behind them.
    have hinside : ∀ item ∈ placed, item.1 ≠ [] := by
      rintro ⟨place, visit⟩ hitem rfl
      simpa using (hmem [] visit).1 hitem
    have hplaces : ∀ place visit, (place, visit) = ([], root) ∨ (place, visit) ∈ placed ↔
        root.descend? place = some visit := by
      intro place visit
      cases place with
      | nil => simp [hmem, Visit.descend?, eq_comm]
      | cons position positions => simp [hmem]
    rw [Visit.subtree_eq, ← hvisits]
    cases order with
    | parentsFirst =>
      refine ⟨([], root) :: placed, rfl, fun place visit => ?_, ?_⟩
      · rw [List.mem_cons, hplaces]
      · refine List.pairwise_cons.2 ⟨fun item hitem => ?_, hpairwise⟩
        obtain ⟨position, positions, hcons⟩ := List.exists_cons_of_ne_nil (hinside item hitem)
        rw [hcons]
        rfl
    | childrenFirst =>
      refine ⟨placed ++ [([], root)], by simp [arrange], fun place visit => ?_, ?_⟩
      · rw [List.mem_append, List.mem_singleton, or_comm, hplaces]
      · refine List.pairwise_append.2 ⟨hpairwise, List.pairwise_singleton _ _, ?_⟩
        intro item hitem last hlast
        obtain rfl := List.mem_singleton.1 hlast
        obtain ⟨position, positions, hcons⟩ := List.exists_cons_of_ne_nil (hinside item hitem)
        rw [hcons]
        rfl

/-- The visits that are listed are those at some place. -/
theorem Lists.mem_iff {visitAt? : List Nat → Option Visit} {visits : List Visit}
    (h : order.Lists visitAt? visits) {visit : Visit} :
    visit ∈ visits ↔ ∃ place, visitAt? place = some visit := by
  obtain ⟨placed, rfl, hmem, -⟩ := h
  rw [List.mem_map]
  constructor
  · rintro ⟨⟨place, _⟩, hitem, rfl⟩
    exact ⟨place, (hmem place _).1 hitem⟩
  · rintro ⟨place, hvisit⟩
    exact ⟨(place, visit), (hmem place visit).2 hvisit, rfl⟩

end WalkOrder

/-! ### Tables -/

theorem Partition.visits_eq_subtree (order : WalkOrder) (index : Nat) (partition : Partition) :
    partition.visits order index = Visit.subtree order ⟨.partition index partition, []⟩ := by
  rw [Partition.visits, optionalPayloadVisits_eq_flatMap]
  rfl

namespace PartitionTable

variable (order : WalkOrder) (table : PartitionTable)

theorem visits_eq_subtrees :
    table.visits order =
      (table.partitionNodes.map fun node => (⟨node, []⟩ : Visit)).flatMap
        (Visit.subtree order) := by
  rw [visits_eq, partitionNodes, List.map_map, List.flatMap_map]
  exact List.flatMap_congr fun entry _ => entry.1.visits_eq_subtree order entry.2

/-- A walk visits every place of a table once, in order. -/
theorem lists_visits : order.Lists table.visitAt? (table.visits order) := by
  rw [visits_eq_subtrees]
  refine WalkOrder.lists_flatMap rfl (fun index positions => ?_) fun root _ =>
    WalkOrder.lists_subtree root
  rw [visitAt?, partitionNodes, List.map_map, List.getElem?_map, List.getElem?_zipIdx]
  cases table.partitions[index]? <;> simp

end PartitionTable

end DiskLayout
