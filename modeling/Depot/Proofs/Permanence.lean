import Depot.Proofs.Fetching
import Depot.Proofs.Seclusion

/-! What has been resolved stays resolved. An artifact that a repository delivers is stored in the
head of the chain, where the chain looks first; one that was in the chain is still there. So after a
resolution that succeeded the chain has the artifact, in the very file that was answered
(`Resolution.find?_of_resolve`), and it is taken from there whether or not the session is offline and
whatever repositories there are (`Resolution.resolve_of_find?`). -/

namespace Depot

namespace Resolution

/-- What is answered is in the chain afterwards. -/
theorem find?_of_resolve {s : Session} {files : FileSystem} {a : Artifact}
    {rs : List RemoteRepository} {outcome : Outcome ResolvedArtifact} {found : ResolvedArtifact}
    (h : resolve s files a rs = outcome) (hfound : outcome.result = .ok found) :
    ∃ kept, s.localChain.find? outcome.files a = some kept ∧ kept.file = found.file := by
  subst h
  cases hfind : s.localChain.find? files a with
  | some kept =>
    rw [resolve_of_find? hfind] at hfound ⊢
    obtain rfl := Except.ok.inj hfound
    exact ⟨kept, hfind, rfl⟩
  | none =>
    have hdownloaded : downloaded? s files a (resolve s files a rs) = some found := by
      rw [downloaded?_of_none hfind, hfound]
      rfl
    obtain ⟨r, turn, -, ⟨source, -, -, hadd⟩, -⟩ :=
      (resolve_way s files a rs).of_downloaded hdownloaded
    exact ⟨_, LocalChain.find?_of_add hadd, rfl⟩

end Resolution

namespace Engine

theorem up_of_resolve {e : Engine} {s : Session} {files : FileSystem} {a : Artifact}
    {rs : List RemoteRepository} {found : ResolvedArtifact}
    (h : (e.resolve s files a rs).result = .ok found) : e.isDown = false := by
  cases hdown : e.isDown with
  | true =>
    rw [resolve_of_down hdown] at h
    cases h
  | false => rfl

/-- An artifact that has been resolved is found in the same file ever after, as long as no file
changes: by every engine that is not down, in every session with the same chain, offline or not, and
among any repositories. Finding it changes no file and transfers nothing. -/
theorem resolved_stays {e : Engine} {s : Session} {files : FileSystem} {a : Artifact}
    {rs : List RemoteRepository} {found : ResolvedArtifact}
    (h : (e.resolve s files a rs).result = .ok found) (later : Engine) (hup : later.isDown = false)
    (s' : Session) (hchain : s'.localChain = s.localChain) (rs' : List RemoteRepository) :
    later.resolve s' (e.resolve s files a rs).files a rs' =
      ⟨(e.resolve s files a rs).files,
        [.repository (.resolving a),
          .repository (.resolved a Resolution.localId (some found.file))],
        .ok ⟨a, found.file, Resolution.localId⟩⟩ := by
  have hresolve := resolve_of_up (up_of_resolve h) s files a rs
  obtain ⟨kept, hkept, hfile⟩ := Resolution.find?_of_resolve hresolve.symm h
  rw [← hchain] at hkept
  rw [resolve_of_up hup, Resolution.resolve_of_find? hkept, hfile]

/-- A session whose local repository is not there yet. -/
def emptied (offline : Bool) : Session :=
  { offline, localChain := { head := ⟨⟨"/m2"⟩, false⟩ } }

/-- A jar that a repository delivered is there when the session is offline and no repository is left.
-/
theorem resolved_stays_offline :
    let first := ({} : Engine).resolve (emptied false) World.stocked.files stockedJar
      [{ id := "far", url := "file:/far" }]
    first.result = .ok ⟨stockedJar, ⟨"/m2/g/a/1/a-1.jar"⟩, "far"⟩ ∧
      (({} : Engine).resolve (emptied true) first.files stockedJar []).result =
        .ok ⟨stockedJar, ⟨"/m2/g/a/1/a-1.jar"⟩, "local"⟩ := by
  have hfirst := Succeeding.toOption_eq_some.mp
    (show (({} : Engine).resolve (emptied false) World.stocked.files stockedJar
      [{ id := "far", url := "file:/far" }]).result.toOption =
        some ⟨stockedJar, ⟨"/m2/g/a/1/a-1.jar"⟩, "far"⟩ by decide +kernel)
  have hlater := resolved_stays hfirst {} rfl (emptied true) rfl []
  exact ⟨hfirst, congrArg Resolution.Outcome.result hlater⟩

end Engine

end Depot
