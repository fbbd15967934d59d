import TenantBroker.Http.Route

/-!
# Where the paths of an instance lead

The path of an instance and that of its last operation lead to no other route, whatever characters
the id consists of, as long as it is one segment.
-/

namespace TenantBroker.Http

/-- What follows the start of a path is what was put there. -/
theorem afterStart?_append (start rest : List Char) :
    afterStart? start (start ++ rest) = some rest := by
  simp [afterStart?]

/-- A path that starts like that of an instance is no fixed one that starts otherwise. -/
theorem isFixed_instancesPath {fixed : String}
    (h : ¬ instancesPath.toList <+: (fixed ++ "\n").toList) (rest : String) :
    isFixed fixed (instancesPath ++ rest) = false := by
  have hbreak : instancesPath ++ rest ≠ fixed ++ "\n" := by
    intro hsame
    refine h (hsame ▸ ?_)
    rw [String.toList_append]
    exact List.prefix_append _ _
  have hplain : instancesPath ++ rest ≠ fixed := by
    intro hsame
    refine h (hsame ▸ ?_)
    rw [String.toList_append, String.toList_append, List.append_assoc]
    exact List.prefix_append _ _
  simp [isFixed, hbreak, hplain]

/-- A path that starts like that of an instance leads to routes of an instance. -/
theorem routes_instancesPath (rest : String) :
    routes (instancesPath ++ rest) = instanceRoutes rest.toList := by
  have hother (fixed : String) (hfixed : fixed ∈ "/" :: "/v2/catalog" :: pagePaths) :
      isFixed fixed (instancesPath ++ rest) = false := by
    refine isFixed_instancesPath ?_ rest
    revert fixed
    decide +kernel
  have hpages : pagePaths.any (isFixed · (instancesPath ++ rest)) = false := by
    rw [List.any_eq_false]
    intro fixed hfixed
    simp [hother fixed (by simp [hfixed])]
  unfold routes
  rw [hpages, hother "/" (by simp), hother "/v2/catalog" (by simp), String.toList_append,
    afterStart?_append]
  rfl

variable {instanceId : String} (h : isSegment instanceId.toList = true)
include h

/-- The path of an instance leads to the instance. -/
theorem routes_instance :
    routes (instancesPath ++ instanceId) = [.provision instanceId, .deprovision instanceId] := by
  rw [routes_instancesPath, instanceRoutes, if_pos h, String.ofList_toList]

/-- The path of the last operation of an instance leads there. -/
theorem routes_lastOperation :
    routes (instancesPath ++ instanceId ++ lastOperationPath) = [.lastOperation instanceId] := by
  have hnot : isSegment (instanceId ++ lastOperationPath).toList = false := by
    simp [isSegment, lastOperationPath]
  have hslash : '/' ∉ instanceId.toList := by
    simp only [isSegment, Bool.and_eq_true, Bool.not_eq_true'] at h
    simpa using h.2
  have htake : (instanceId ++ lastOperationPath).toList.takeWhile (· ≠ '/') =
      instanceId.toList := by
    rw [String.toList_append, List.takeWhile_append_of_pos fun c hc ↦ ?_]
    · exact List.append_nil _
    · exact decide_eq_true fun hsame ↦ hslash (hsame ▸ hc)
  have hdrop : (instanceId ++ lastOperationPath).toList.drop instanceId.toList.length =
      lastOperationPath.toList := by
    rw [String.toList_append]
    exact List.drop_left
  have hend : isFixed lastOperationPath lastOperationPath = true := by simp [isFixed]
  simp only [String.append_assoc, routes_instancesPath, instanceRoutes, hnot, htake, h, hdrop, hend,
    String.ofList_toList, Bool.and_self, if_true, Bool.false_eq_true, if_false]

/-- An instance is provisioned at its path. -/
theorem destination_put : destination "PUT" (instancesPath ++ instanceId) =
    .route (.provision instanceId) := by
  simp [destination, routes_instance h, Route.methods]

/-- An instance is deprovisioned at its path. -/
theorem destination_delete : destination "DELETE" (instancesPath ++ instanceId) =
    .route (.deprovision instanceId) := by
  simp [destination, routes_instance h, Route.methods]

/-- The last operation of an instance is asked after at a path below that of the instance. -/
theorem destination_lastOperation :
    destination "GET" (instancesPath ++ instanceId ++ lastOperationPath) =
      .route (.lastOperation instanceId) := by
  simp [destination, routes_lastOperation h, Route.methods]

end TenantBroker.Http
