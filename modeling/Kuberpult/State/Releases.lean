import Kuberpult.State.Basic

/-! The two readers of an application's releases, `State.Releases` and
`State.GetApplicationReleases`, read the same directory and keep the same numbers: the
values of the entry names that parse as decimal `uint64`. Only the second sorts them
(`GetApplicationReleases_eq`, `GetApplicationReleases_sorted`); the first keeps the order
the directory lists its entries in, so the two differ on a listing that is not in numeric
order (`releases_follow_listing_order`). -/
namespace Kuberpult

/-- `GetApplicationReleases` is `Releases` sorted. -/
theorem GetApplicationReleases_eq (s : State) (application : String) :
    s.GetApplicationReleases application = (s.Releases application).map sortAscending := by
  unfold State.GetApplicationReleases State.Releases names
  cases s.Filesystem.ReadDir (releasesDirectory application) <;> rfl

/-- `GetApplicationReleases` returns the numbers `Releases` returns, in ascending order. -/
theorem GetApplicationReleases_sorted {s : State} {application : String} {result : List UInt64}
    (read : s.GetApplicationReleases application = .ok result) :
    ∃ listed, s.Releases application = .ok listed ∧ result.Sorted (· ≤ ·) ∧ result.Perm listed := by
  rw [GetApplicationReleases_eq] at read
  cases listing : s.Releases application with
  | error err => rw [listing] at read; cases read
  | ok listed =>
    rw [listing] at read
    cases read
    exact ⟨listed, rfl, List.sorted_insertionSort _ _, List.perm_insertionSort _ _⟩

/-- An application `app` with the release directories `9` and `10`. -/
def twoReleasesTree : TreeFS :=
  match TreeFS.empty.MkdirAll (releasesDirectory "app" ++ ["9"]) with
  | .ok t => match t.MkdirAll (releasesDirectory "app" ++ ["10"]) with
    | .ok t => t
    | .error _ => .empty
  | .error _ => .empty

/-- The state of a commit with `twoReleasesTree`. -/
def twoReleases : State := ⟨twoReleasesTree, none, false, ""⟩

/-- The directory lists `10` before `9`, as name order does too: `Releases` returns
`[10, 9]`, not sorted, while `GetApplicationReleases` returns `[9, 10]`. -/
theorem releases_follow_listing_order :
    (twoReleases.Filesystem.ReadDir (releasesDirectory "app")).map (List.map FileInfo.name) = .ok ["10", "9"] ∧
      twoReleases.Releases "app" = .ok [10, 9] ∧ twoReleases.GetApplicationReleases "app" = .ok [9, 10] :=
  ⟨rfl, rfl, rfl⟩

end Kuberpult
