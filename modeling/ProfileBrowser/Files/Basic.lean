import ProfileBrowser.Files.Fault
/-!
# Files

What the program does with files, over any monad in which files can be had.
-/

namespace ProfileBrowser

/-- The ways to get at files. -/
structure Files (m : Type → Type) where
  /-- Whether a path names a file. -/
  isFile : String → m Bool
  /-- The content of a file. -/
  read : String → m (Except FileFault (List UInt8))
  /-- Makes an empty file where there is none. -/
  touch : String → m (Except FileFault Unit)
  /-- Writes a file, over the one that is there. -/
  write : String → String → m (Except FileFault Unit)

end ProfileBrowser
