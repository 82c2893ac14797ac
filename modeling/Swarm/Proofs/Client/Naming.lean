import Swarm.Client.OutputPath
import Swarm.Proofs.Storage.Paths

/-!
The name of the file that a torrent is written to. Whatever name a torrent suggests, the file has
one that a directory can hold an entry under, so no torrent is written outside the output
directory.
-/

namespace Swarm

open Storage Storage.Path

theorem Digest.length_hex (d : Digest) : d.hex.length = 40 := by
  rw [Digest.hex, Hex.length_text, d.2]

theorem Digest.isOrdinary_hex (d : Digest) : IsOrdinary d.hex := by
  have other : ∀ short : String, short.length < 40 → d.hex ≠ short := by
    rintro short small rfl
    exact absurd d.length_hex (Nat.ne_of_lt small)
  have clean : '/' ∉ d.hex.toList := fun slash =>
    absurd (Hex.isSome_value?_of_mem_text slash) (by decide)
  exact ⟨⟨other "" (by decide), other "." (by decide), clean⟩, other ".." (by decide)⟩

namespace Client

variable {path name : String} {d : Descriptor}

theorem lastName?_eq_some_iff : lastName? path = some name ↔ EndsIn path name ∧ name ≠ ".." := by
  rw [lastName?, Option.filter_eq_some_iff, getLast?_names_iff, bne_iff_ne]

theorem fileName_of_endsIn (ends : EndsIn d.content.name name) (ordinary : IsOrdinary name) :
    fileName d = name := by
  rw [fileName, lastName?_eq_some_iff.2 ⟨ends, ordinary.2⟩, Option.getD_some]

theorem fileName_of_not_endsIn
    (unnamed : ¬ ∃ last, EndsIn d.content.name last ∧ IsOrdinary last) :
    fileName d = d.infoHash.hex := by
  have nothing : lastName? d.content.name = none := by
    rw [Option.eq_none_iff_forall_ne_some]
    intro last found
    obtain ⟨ends, up⟩ := lastName?_eq_some_iff.1 found
    exact unnamed ⟨last, ends, ends.component, up⟩
  rw [fileName, nothing, Option.getD_none]

theorem isOrdinary_fileName (d : Descriptor) : IsOrdinary (fileName d) := by
  by_cases named : ∃ last, EndsIn d.content.name last ∧ IsOrdinary last
  · obtain ⟨last, ends, ordinary⟩ := named
    rwa [fileName_of_endsIn ends ordinary]
  · rw [fileName_of_not_endsIn named]
    exact d.infoHash.isOrdinary_hex

/-- The output file is named by an ordinary component, the last one of the suggested name if that is
ordinary and else the forty digits of the torrent's digest, and it is an entry of the output
directory. -/
theorem outputPath_isEntry (d : Descriptor) :
    IsOrdinary (fileName d) ∧
      (∀ last, EndsIn d.content.name last → IsOrdinary last → fileName d = last) ∧
      ((¬ ∃ last, EndsIn d.content.name last ∧ IsOrdinary last) →
        fileName d = d.infoHash.hex ∧ (fileName d).length = 40 ∧
          Hex.octets (fileName d).toList = d.infoHash.1) ∧
      ∀ directory, IsEntry directory (fileName d) (outputPath directory d) := by
  refine ⟨isOrdinary_fileName d, fun _ => fileName_of_endsIn, fun unnamed => ?_,
    fun directory => ?_⟩
  · rw [fileName_of_not_endsIn unnamed]
    exact ⟨rfl, d.infoHash.length_hex, Hex.octets_text d.infoHash.1⟩
  · exact isEntry_join (isOrdinary_fileName d)

namespace Sample

def suggesting (name : String) : Descriptor :=
  ⟨"http://tracker.test/announce", default, ⟨name, 3, 1, []⟩⟩

end Sample

theorem outputPath_isEntry_sample :
    (EndsIn "/../etc//passwd/./" "passwd" ∧ IsOrdinary "passwd" ∧
      fileName (Sample.suggesting "/../etc//passwd/./") = "passwd") ∧
    ((¬ ∃ last, EndsIn "etc/passwd/.." last ∧ IsOrdinary last) ∧
      fileName (Sample.suggesting "etc/passwd/..") = "0000000000000000000000000000000000000000") ∧
    IsEntry "downloads" "passwd"
      (outputPath "downloads" (Sample.suggesting "/../etc//passwd/./")) := by
  have ordinary : IsOrdinary "passwd" := by
    refine ⟨⟨?_, ?_, ?_⟩, ?_⟩ <;> decide
  have ends : EndsIn "/../etc//passwd/./" "passwd" := getLast?_names_iff.1 rfl
  have up : ¬ ∃ last, EndsIn "etc/passwd/.." last ∧ IsOrdinary last := by
    rintro ⟨last, found, other⟩
    have given : some ".." = some last := getLast?_names_iff.2 found
    exact other.2 (Option.some.inj given).symm
  obtain ⟨-, named, -, entry⟩ := outputPath_isEntry (Sample.suggesting "/../etc//passwd/./")
  obtain ⟨-, -, unnamed, -⟩ := outputPath_isEntry (Sample.suggesting "etc/passwd/..")
  have name := named "passwd" ends ordinary
  refine ⟨⟨ends, ordinary, name⟩, ⟨up, (unnamed up).1.trans rfl⟩, ?_⟩
  have inside := entry "downloads"
  rwa [name] at inside

end Client

end Swarm
