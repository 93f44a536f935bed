import Bundler.Configuration
import Bundler.Proofs.Disk.Physical

/-!
# The output directory of a project

The output directory that the settings name is in the project, wherever links lead: its path is
physical, so that the directory can be made and files be stored in it without a change elsewhere. For
this all links on the way have to be followed. A link that leads back to itself is kept, together with
whatever comes after it, and what comes after it may lead out.
-/

set_option autoImplicit false

namespace Bundler

variable {d : Disk} {root base p : Path} {output : String}

/-- A path that is in a directory, whatever is done with it. -/
structure IsConfined (d : Disk) (base : List String) (p : Path) : Prop where
  /-- The path continues that of the directory. -/
  below : base <+: p.names
  /-- No links are on the path. -/
  isPhysical : d.IsPhysical p.names
  /-- What the path leads to is in the directory. -/
  place : ∀ place, d.place p = .ok place → base <+: place
  /-- Making a directory there and storing files in it changes nothing outside, however it ends, if
  no links stand in their places. -/
  storing : ∀ files : List (String × List UInt8),
    (∀ file ∈ files, IsStepName file.1 ∧ d.link? (p.names ++ [file.1]) = none) →
    ∀ names, ¬ base <+: names → (stateAfter (Disk.store p files) d).get? names = d.get? names

/-- The output directory of a project is a real path below the real path of the project. -/
theorem exists_real_of_outputDirectory (h : outputDirectory d root output = .ok p) :
    ∃ base, d.real root = .ok base ∧ d.real (base / output) = .ok p ∧ p.isBelow base = true := by
  unfold outputDirectory Failure.crashOn at h
  dsimp only at h
  split at h
  · obtain ⟨_, hthrow, _⟩ := bind_eq_ok.mp h
    cases hthrow
  · split at h
    · obtain ⟨_, hthrow, _⟩ := bind_eq_ok.mp h
      cases hthrow
    · obtain ⟨base, hbase, h⟩ := bind_eq_ok.mp h
      obtain ⟨directory, hdirectory, h⟩ := bind_eq_ok.mp h
      split at h
      · cases h
        exact ⟨base, mapError_eq_ok.mp hbase, mapError_eq_ok.mp hdirectory, ‹_›⟩
      · cases h

/-- The output directory of a project is in the directory of the project, if no link on the way leads
back to itself. -/
theorem outputDirectory_confined (hroot : d.isDirectory root = true) (hbase : d.real root = .ok base)
    (hlinks : d.FollowsLinks (base / output)) (h : outputDirectory d root output = .ok p) :
    d.place root = .ok base.names ∧ IsConfined d base.names p := by
  obtain ⟨_, place, hplace, hdirectory⟩ := Disk.isDirectory_iff_place.mp hroot
  obtain ⟨rfl, hopen, _⟩ := Disk.real_of_directory hbase hplace hdirectory
  obtain ⟨other, hother, hp, hisBelow⟩ := exists_real_of_outputDirectory h
  obtain rfl := Except.ok.inj (hother.symm.trans hbase)
  obtain ⟨names, rfl, hphysical⟩ := hlinks.exists_physical hp
  have hbelow : place <+: names := by
    unfold Path.isBelow at hisBelow
    simpa using hisBelow
  refine ⟨hplace, hbelow, hphysical, ?_, ?_⟩
  · intro found hfound
    rwa [hphysical.eq_of_place hfound]
  · intro files hfiles
    exact (Disk.keeps_store hopen.dropLast hphysical hbelow hfiles d (.refl _ d)).outside

/-- A disk with a project in which one link leads to another directory of the project, one out of the
project, and one back to itself. -/
def knotted : Disk where
  entries :=
    [(["w"], .directory), (["w", "p"], .directory), (["w", "q"], .directory),
      (["w", "p", "real"], .directory), (["w", "p", "in"], .link "real"),
      (["w", "p", "out"], .link "../q"), (["w", "p", "loop"], .link "loop")]
  current := ⟨.root, []⟩

/-- A new directory behind a link is in the directory that the link leads to. -/
theorem outputDirectory_confined_knotted :
    knotted.isDirectory ⟨.root, ["w", "p"]⟩ = true ∧
      knotted.real ⟨.root, ["w", "p"]⟩ = .ok ⟨.root, ["w", "p"]⟩ ∧
      knotted.FollowsLinks ((⟨.root, ["w", "p"]⟩ : Path) / "in/new") ∧
      outputDirectory knotted ⟨.root, ["w", "p"]⟩ "in/new" = .ok ⟨.root, ["w", "p", "real", "new"]⟩ ∧
      IsConfined knotted ["w", "p"] ⟨.root, ["w", "p", "real", "new"]⟩ := by
  have hroot : knotted.isDirectory ⟨.root, ["w", "p"]⟩ = true := by cbv
  have hbase : knotted.real ⟨.root, ["w", "p"]⟩ = .ok ⟨.root, ["w", "p"]⟩ := by cbv
  have hlinks : knotted.FollowsLinks ((⟨.root, ["w", "p"]⟩ : Path) / "in/new") := by
    unfold Disk.FollowsLinks
    cbv
  have hout : outputDirectory knotted ⟨.root, ["w", "p"]⟩ "in/new" =
      .ok ⟨.root, ["w", "p", "real", "new"]⟩ := by
    cbv
  exact ⟨hroot, hbase, hlinks, hout, (outputDirectory_confined hroot hbase hlinks hout).2⟩

/-- What comes after a link that leads back to itself is kept as it is, and may be a link that leads out
of the project. -/
theorem outputDirectory_beyond_loop :
    knotted.isDirectory ⟨.root, ["w", "p"]⟩ = true ∧
      outputDirectory knotted ⟨.root, ["w", "p"]⟩ "loop/../out" = .ok ⟨.root, ["w", "p", "out"]⟩ ∧
      knotted.place ⟨.root, ["w", "p"]⟩ = .ok ["w", "p"] ∧
      knotted.place ⟨.root, ["w", "p", "out"]⟩ = .ok ["w", "q"] ∧
      ¬ ["w", "p"] <+: ["w", "q"] := by
  refine ⟨by cbv, by cbv, by cbv, by cbv, by decide⟩

end Bundler
