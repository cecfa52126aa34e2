/-!
# AssetBundle.Files.Buffer

What has reached a file while text is being written to it. Pieces of text are gathered until there
is a chunk of them, which is then passed on as a whole; the rest reaches the file when it is closed.
-/

namespace AssetBundle
namespace Buffer

/-- The number of bytes that are passed on. -/
def chunk : Nat := 8192

/-- How many bytes have reached the file and how many are gathered, after one more piece. -/
def add (counts : Nat × Nat) (size : Nat) : Nat × Nat :=
  let gathered := counts.2 + size
  if gathered < chunk then (counts.1, gathered) else (counts.1 + gathered, 0)

/-- How many bytes have reached the file, of pieces of the given sizes. -/
def reached (sizes : List Nat) : Nat := (sizes.foldl add (0, 0)).1

end Buffer
end AssetBundle
