import ChangeRouting.Proofs.Node.Tree
import ChangeRouting.Proofs.Selection.Calls

/-!
# ChangeRouting.Proofs.Selection.Topology

Rows about nodes follow the registration tree, on any node table.

* `nodeTables`, `ofName?_of_lowercase` — the tables whose rows are about a node, by their names in either case;
* `Concerns` — which nodes a row about a node goes to, in terms of the node table alone;
* `NodeTree.mem_select_iff` — the tree selects exactly these among the candidates;
* `fst_run_selectTopology` — what the strategy ends with, whatever the calls before it left in the cache;
* `topology_follows_registration` — so rows about nodes go where the node table says.
-/

namespace ChangeRouting

/-- What follows the marker in the names of the tables whose rows are about a node. -/
def nodeTables : List String := ["_node", "_node_security", "_node_host"]

/-- The names of these tables are told in either case. -/
theorem TopologyTable.ofName?_of_lowercase {marker table name : String} (hname : name ∈ nodeTables)
    (htable : Text.lowercase table = Text.lowercase (marker ++ name)) :
    TopologyTable.ofName? marker table = some .nodes := by
  -- an underscore ends a word, so the marker is written in small letters on its own
  obtain ⟨rest, hrest, hkind⟩ : ∃ rest, name.toList = '_' :: rest ∧
      String.ofList (Text.lower rest) ∈ ["node", "node_security", "node_host"] := by
    simp only [nodeTables, List.mem_cons, List.not_mem_nil, or_false] at hname
    rcases hname with rfl | rfl | rfl
    · exact ⟨"node".toList, rfl, by decide⟩
    · exact ⟨"node_security".toList, rfl, by decide⟩
    · exact ⟨"node_host".toList, rfl, by decide⟩
  have hlower : Text.lower table.toList = Text.lower marker.toList ++ ['_'] ++ Text.lower rest := by
    rw [List.append_assoc, List.singleton_append, ← Text.lower_append_underscore, ← hrest,
      ← String.toList_append]
    exact String.ofList_injective htable
  have hstart : (Text.lower marker.toList ++ ['_']).isPrefixOf
      (Text.lower marker.toList ++ ['_'] ++ Text.lower rest) = true :=
    List.isPrefixOf_iff_prefix.2 (List.prefix_append _ _)
  simp only [ofName?, hlower, hstart, if_true, List.drop_left]
  simp only [List.mem_cons, List.not_mem_nil, or_false] at hkind
  rcases hkind with hkind | hkind | hkind <;> simp only [hkind]

/-- A row about a subject concerns a node: the subject, the nodes above it, and those below it whose depth is
not that of the node that does the routing. -/
def Concerns (nodes : List Node) (routing subject id : String) : Prop :=
  id = subject ∨ IsAbove nodes id subject ∨
    IsAbove nodes subject id ∧
      Set.ncard {upper | IsAbove nodes upper id} ≠ Set.ncard {upper | IsAbove nodes upper routing}

/-- The tree selects the candidates that the row concerns. -/
theorem NodeTree.mem_select_iff {nodes candidates : List Node} (hkey : (nodes.map Node.id).Nodup)
    {routing subject id : String} :
    id ∈ (ofNodes nodes).select routing subject candidates ↔
      ∃ node ∈ candidates, node.id = id ∧ Concerns nodes routing subject id := by
  simp only [select, NodeSet.mem_ofList, List.mem_map, List.mem_filter, Bool.or_eq_true, Bool.and_eq_true,
    decide_eq_true_eq, mem_ancestors_iff hkey, depth_eq hkey, Concerns, or_assoc, and_assoc]
  refine exists_congr fun node => and_congr_right fun _ => ?_
  constructor
  · rintro ⟨hconcerns, rfl⟩
    exact ⟨rfl, hconcerns⟩
  · rintro ⟨rfl, hconcerns⟩
    exact ⟨hconcerns, rfl⟩

/-- What the strategy ends with for a row of such a table, whatever the calls before it left in the cache. -/
theorem fst_run_selectTopology {store : Store} {q : Question} {scope : RoutingScope} {marker : String}
    (htells : scope.Tells ⟨.topology marker, store, q⟩) (htable : TopologyTable.ofName? marker q.change.table = some .nodes) :
    (((Strategy.topology marker).select store q).run.run scope).1 =
      match q.values.get "NODE_ID" with
      | none => .ok (.ofList (q.candidates.map Node.id))
      | some subject => (·.select scope.node subject q.candidates) <$> store.tree := by
  refine (fst_runIn htells rfl "").trans ?_
  simp only [Call.runIn, Strategy.select, Strategy.selectTopology, htable]
  cases q.values.get "NODE_ID" with
  | none => rfl
  | some subject =>
      simp only [run_bind, run_cached, Store.tree]
      cases store.allNodes <;> rfl

/-- The node table may hold any parents.  From every id the walk comes, nearest first and once, to each node
above it.  A row about nodes, whose table is told in either case, goes to all candidates if it names no node,
and otherwise to the candidates that it concerns: the node it names, the nodes above that one, and those below
it with another number of nodes above them than the node that does the routing has. -/
theorem topology_follows_registration {store : Store} {nodes : List Node}
    (hnodes : store.allNodes = .ok nodes) (hkey : (nodes.map Node.id).Nodup) :
    (∀ id, ((NodeTree.ofNodes nodes).ancestors id).Nodup ∧
        (id :: (NodeTree.ofNodes nodes).ancestors id).IsChain (RegisteredBy nodes) ∧
        ∀ upper, upper ∈ (NodeTree.ofNodes nodes).ancestors id ↔ IsAbove nodes upper id) ∧
      ∀ (marker : String) (q : Question) (scope : RoutingScope), scope.Tells ⟨.topology marker, store, q⟩ →
        (∃ name ∈ nodeTables, Text.lowercase q.change.table = Text.lowercase (marker ++ name)) →
        ∃ selected, (((Strategy.topology marker).select store q).run.run scope).1 = .ok selected ∧
          (q.values.get "NODE_ID" = none →
            ∀ id, id ∈ selected ↔ ∃ node ∈ q.candidates, node.id = id) ∧
          ∀ subject, q.values.get "NODE_ID" = some subject →
            ∀ id, id ∈ selected ↔
              ∃ node ∈ q.candidates, node.id = id ∧ Concerns nodes scope.node subject id := by
  refine ⟨fun id => ⟨NodeTree.nodup_ancestors, NodeTree.isChain_ancestors hkey,
    fun upper => NodeTree.mem_ancestors_iff hkey⟩, ?_⟩
  rintro marker q scope htells ⟨name, hname, htable⟩
  have hrun := fst_run_selectTopology htells (TopologyTable.ofName?_of_lowercase hname htable)
  have htree : store.tree = .ok (NodeTree.ofNodes nodes) := by rw [Store.tree, hnodes]; rfl
  cases hsubject : q.values.get "NODE_ID" with
  | none =>
      rw [hsubject] at hrun
      exact ⟨_, hrun, fun _ id => by simp, fun subject hnamed => by cases hnamed⟩
  | some subject =>
      rw [hsubject, htree] at hrun
      refine ⟨_, hrun, ?_, fun named hnamed id => ?_⟩
      · intro hnone
        cases hnone
      · rw [← Option.some.inj hnamed]
        exact NodeTree.mem_select_iff hkey

/-- Two nodes that registered each other, one below them, one that registered itself, and one whose parent is
no node. -/
def ringNodes : List Node :=
  [⟨"a", "corp", "a", true, some "b"⟩, ⟨"b", "corp", "b", true, some "a"⟩,
    ⟨"c", "store", "c", true, some "a"⟩, ⟨"d", "store", "d", true, some "d"⟩,
    ⟨"e", "store", "e", true, some "x"⟩]

/-- A change to the row of the node in the middle. -/
def ringQuestion : Question where
  router := { id := "config", type := "configurationChanged", sourceGroup := "corp", targetGroup := "store" }
  change := ⟨7, "SYM_Node", .update, none, none, none, 1, "config", none, none, 0, none⟩
  values := ColumnValues.empty.insert "node_id" (some "a")
  candidates := ringNodes
  initialLoad := false

theorem topology_follows_registration_ring :
    { Store.empty with nodes := some ringNodes }.allNodes = .ok ringNodes ∧
      (ringNodes.map Node.id).Nodup ∧
      (NodeTree.ofNodes ringNodes).ancestors "c" = ["a", "b"] ∧
      ∃ selected,
        (((Strategy.topology "sym").select { Store.empty with nodes := some ringNodes } ringQuestion).run.run
          (Scope.new "b" "corp" "config")).1 = .ok selected ∧
        "a" ∈ selected ∧ "b" ∈ selected ∧ "c" ∈ selected ∧ "d" ∉ selected ∧ "e" ∉ selected := by
  have hkey : (ringNodes.map Node.id).Nodup := by decide
  have upA : (NodeTree.ofNodes ringNodes).Up "a" "b" := rfl
  have upB : (NodeTree.ofNodes ringNodes).Up "b" "a" := rfl
  have upC : (NodeTree.ofNodes ringNodes).Up "c" "a" := rfl
  have upE : (NodeTree.ofNodes ringNodes).Up "e" "x" := rfl
  have ha : (NodeTree.ofNodes ringNodes).ancestors "a" = ["b"] := by
    simp [NodeTree.ancestors, NodeTree.ancestorsFrom_of_up upA, NodeTree.ancestorsFrom_of_up upB]
  have hb : (NodeTree.ofNodes ringNodes).ancestors "b" = ["a"] := by
    simp [NodeTree.ancestors, NodeTree.ancestorsFrom_of_up upA, NodeTree.ancestorsFrom_of_up upB]
  have hc : (NodeTree.ofNodes ringNodes).ancestors "c" = ["a", "b"] := by
    simp [NodeTree.ancestors, NodeTree.ancestorsFrom_of_up upA, NodeTree.ancestorsFrom_of_up upB,
      NodeTree.ancestorsFrom_of_up upC]
  have hd : (NodeTree.ofNodes ringNodes).ancestors "d" = [] := NodeTree.ancestorsFrom_of_root rfl
  have he : (NodeTree.ofNodes ringNodes).ancestors "e" = ["x"] := by
    rw [NodeTree.ancestors, NodeTree.ancestorsFrom_of_up upE, if_neg (by decide),
      NodeTree.ancestorsFrom_of_root rfl]
  obtain ⟨-, hroute⟩ := topology_follows_registration
    (show { Store.empty with nodes := some ringNodes }.allNodes = .ok ringNodes from rfl) hkey
  obtain ⟨selected, hrun, -, hmem⟩ := hroute "sym" ringQuestion (Scope.new "b" "corp" "config")
    (Scope.tells_new _ _ _ _) ⟨"_node", by decide, by decide⟩
  refine ⟨rfl, hkey, hc, selected, hrun, ?_⟩
  simp only [hmem "a" (by decide), Concerns, ← NodeTree.depth_eq hkey]
  simp only [← NodeTree.mem_ancestors_iff hkey, NodeTree.depth, Scope.new, ha, hb, hc, hd, he]
  simp [ringQuestion, ringNodes]

end ChangeRouting
