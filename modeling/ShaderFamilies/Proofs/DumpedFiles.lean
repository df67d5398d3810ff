import ShaderFamilies.Proofs.FirstFailure
import ShaderFamilies.Proofs.WrittenTexts

/-!
# Files after a dump

A dump reads its templates and counts its outputs before it writes anything.  So
what it writes comes from the templates as they were before, and a dump that is
refused leaves the files as they were.
-/

namespace ShaderFamilies

variable {σ S P : Type}

/-- The outputs can be the templates themselves: both variants are made from the
marker, and the vertical one is written last. -/
example :
    let files : FileTree :=
      ⟨[(["v"], .file []), (["f"], .file (Utf8.encode definitionsMarker))]⟩
    let own : Paths := { vertex := "v", fragment := "f" }
    let dump := observe (dumpVariants {} .blur own [own, own] :
      Work (Recorded Unit (DeviceCall Nat Nat)) Nat Nat Unit) files ()
    dump.files.node? ["f"] = some (.file (Utf8.encode
      ("#define KERNEL_RADIUS 4\n#define vecout vec3\n#define texComponent rgb\n" ++
        "#define ALGINE_VERTICAL\n"))) := by
  decide +kernel

end ShaderFamilies
