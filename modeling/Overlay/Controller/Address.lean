import Overlay.Url.Read

/-!
# Where the controller answers

The controller keeps the membership of the overlay. It answers under fixed paths of its origin: at
`edges` an edge is registered, at `watch` changes of the membership are published, and each edge has
an address of its own below `edges`.
-/

namespace Overlay.Controller

/-- The path of the collection of edges. -/
def edgesPath : List UrlPath.Segment := ["api".toList, "edges".toList]

/-- Where edges are registered. -/
def edgesUrl (base : Url) : Except UrlError Url := base.atPath edgesPath

/-- Where changes of the membership are published. -/
def watchUrl (base : Url) : Except UrlError Url := base.atPath (edgesPath ++ ["watch".toList])

/-- The address of the named edge, or of something below it. -/
def edgeUrl (base : Url) (name : String) (below : List String) : Except UrlError Url :=
  match base.atPath (edgesPath ++ [[]]) with
  | .ok u => .ok ((u.mapPath UrlPath.popIfEmpty).pushAll (name.toList :: below.map String.toList))
  | .error e => .error e

/-- What is said when there is no such address. -/
def urlMessage (e : UrlError) : String := "URL parse error: " ++ e.message

end Overlay.Controller
