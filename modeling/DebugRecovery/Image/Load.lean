import DebugRecovery.Abort
import DebugRecovery.Image.Reader

/-!
Loading an image from a file.
-/

set_option autoImplicit false

namespace DebugRecovery.Image

def ofBytes (data : ByteArray) : Except Abort Image :=
  match read data with
  | .ok image => .ok image
  | .error (.invalid detail) => .error (.failure (.image detail))
  | .error .unreachable => .error .offset

def load (files : FileTree) (path : Path) : Except Abort Image :=
  match files.read path with
  | .error error =>
      .error (.ofFileFailure (fun reason => .image s!"Failed to read {path.text}: {reason}") error)
  | .ok data => ofBytes data

def outcomeNotes : Except Abort Image → Journal
  | .ok image => [image.loadedEntry]
  | .error _ => []

def readingEntry (path : Path) : Entry := ⟨.debug, Channel.image, s!"Reading binary: {path.text}"⟩

end DebugRecovery.Image
