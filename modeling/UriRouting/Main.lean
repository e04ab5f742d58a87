import UriRouting.Routes.Example

/-!
# The example program

Prints the transcript of the example.
-/

/-- Prints the transcript of the example. -/
def main : IO PUnit := IO.print (String.ofList UriRouting.Example.transcript)
