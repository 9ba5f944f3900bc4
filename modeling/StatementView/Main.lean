import StatementView.Command.Run

open StatementView StatementView.Command

partial def readAll (stream : IO.FS.Stream) (bytes : ByteArray) : IO ByteArray := do
  let chunk ← stream.read 65536
  if chunk.isEmpty then pure bytes else readAll stream (bytes ++ chunk)

def lookUp (path : Text) : IO Node := do
  if path.isEmpty then pure .missing
  else
    try
      let content ← IO.FS.readBinFile (String.ofList path)
      pure (.file content.toList)
    catch
      | .noFileOrDirectory .. => pure .missing
      | _ => pure .directory

def main (arguments : List String) : IO UInt32 := do
  let arguments := arguments.map String.toList
  let (paths, readsInput) :=
    match parse arguments with
    | .ok request => (request.paths, request.readsInput)
    | .error _ => ([], false)
  let found ← paths.mapM fun path ↦ do pure (path, ← lookUp path)
  let input ← if readsInput then readAll (← IO.getStdin) .empty else pure .empty
  let outcome := run ⟨input.toList, fun path ↦ (found.lookup path).getD .missing⟩ arguments
  (← IO.getStdout).putStr (String.ofList outcome.output)
  (← IO.getStderr).putStr (String.ofList outcome.errors)
  pure (UInt32.ofNat outcome.code)
