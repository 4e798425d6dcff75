import MelodyAutomation.Song

/-!
# Folders

What is found under a path, seen from a folder that holds nothing but some files.
Empty parts of a path and single dots lead nowhere. Two dots lead out of the folder,
where there are other folders but none of the files.
-/

namespace MelodyAutomation
namespace Folder

variable {R : Type}

/-- Whether a part of a path leads nowhere. -/
def isIdle (part : String) : Bool := part == "" || part == "."

/-- Whether a path stands for a folder or for nothing: it begins or ends in a part
that leads nowhere, other than a dot at its beginning. -/
def isNoFile (parts : List String) : Bool :=
  parts.head? == some "" || parts.getLast?.any isIdle

/-- What is found under a path, given the files of the folder. -/
def find (file? : String → Option (SongFile R)) (path : String) : SongFile R :=
  let parts := path.splitOn "/"
  let steps := parts.filter fun part => !isIdle part
  if path = "" then .missing
  else if steps.all (· == "..") then .folder
  else if isNoFile parts then .missing
  else (file? ("/".intercalate steps)).getD .missing

end Folder
end MelodyAutomation
