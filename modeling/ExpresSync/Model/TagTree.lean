import ExpresSync.Model.MappingResolver
import ExpresSync.Model.RouteClassifier

/-!
# The tag hierarchy as a tree

`isMetaTag`, `isDescendantOf` and `buildTagTree`.  The nodes of the tree are objects that a loop
links to each other; here a node is known by its id tag, `TagNodes` holds the links, and
`TagNodes.toTree` follows them down to a depth.
-/

namespace ExpresSync

lemma truthy_eq_true_iff {s : Option String} : truthy s = true ↔ ∃ t, s = some t ∧ t ≠ "" := by
  cases s <;> simp [truthy]

/-- `isMetaTag` -/
def isMetaTag (idTag : Option String) : Bool :=
  match idTag with
  | none => false
  | some idTag =>
      startsWith idTag "META-" || (startsWith idTag "OCPP-" && !startsWith idTag "OCPP-D-")

/-- `isDescendantOf` -/
def isDescendantOf (tag : StEvEOcppTag) (potentialAncestorIdTag : String)
    (allTags : List StEvEOcppTag) : Bool :=
  (getAllAncestorTags tag allTags).any fun ancestor => ancestor.idTag = potentialAncestorIdTag

structure TagNode extends StEvEOcppTag where
  children : List TagNode

/-- The links between the nodes. -/
structure TagNodes where
  /-- By the id tag of the node. -/
  children : String → List StEvEOcppTag
  rootTags : List StEvEOcppTag

/-- `tagMap.get`: of two tags with one id the later has replaced the earlier. -/
def tagMap (tags : List StEvEOcppTag) (idTag : String) : Option StEvEOcppTag :=
  tags.reverse.find? fun t => t.idTag = idTag

/-- The body of the second loop of `buildTagTree`. -/
def TagNodes.link (tags : List StEvEOcppTag) (nodes : TagNodes) (tag : StEvEOcppTag) : TagNodes :=
  let node := (tagMap tags tag.idTag).getD tag
  let asRoot : TagNodes := { nodes with rootTags := nodes.rootTags ++ [node] }
  match tag.parentIdTag with
  | none => asRoot
  | some parentIdTag =>
      if parentIdTag = "" then asRoot
      else
        match tagMap tags parentIdTag with
        | none => asRoot
        | some parent =>
            { nodes with
              children := Function.update nodes.children parent.idTag
                (nodes.children parent.idTag ++ [node]) }

/-- The tree below a node. -/
def TagNodes.toTree (nodes : TagNodes) : ℕ → StEvEOcppTag → TagNode
  | 0, tag => ⟨tag, []⟩
  | fuel + 1, tag => ⟨tag, (nodes.children tag.idTag).map (nodes.toTree fuel)⟩

/-- The nodes, once all tags have found their place. -/
def linkedNodes (tags : List StEvEOcppTag) : TagNodes :=
  tags.foldl (TagNodes.link tags) { children := fun _ => [], rootTags := [] }

/-- The forest that `linkedNodes` describes, to a depth. -/
def tagForest (tags : List StEvEOcppTag) (fuel : ℕ) : List TagNode :=
  (linkedNodes tags).rootTags.map ((linkedNodes tags).toTree fuel)

/-- `buildTagTree` -/
def buildTagTree (tags : List StEvEOcppTag) : List TagNode := tagForest tags tags.length

/-! ## What is in a tree -/

mutual

/-- The tags of a tree, in order. -/
def TagNode.tags : TagNode → List StEvEOcppTag
  | ⟨tag, children⟩ => tag :: forestTags children

/-- The tags of a forest, in order. -/
def forestTags : List TagNode → List StEvEOcppTag
  | [] => []
  | node :: nodes => node.tags ++ forestTags nodes

end

end ExpresSync
