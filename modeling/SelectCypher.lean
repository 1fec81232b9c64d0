import SelectCypher.Main
import SelectCypher.Proofs.Cypher.Unambiguous
import SelectCypher.Proofs.Query.Economy
import SelectCypher.Proofs.Query.Reading
import SelectCypher.Proofs.Token.Lossless
import SelectCypher.Proofs.Token.Session
import SelectCypher.Proofs.Translation.Confinement
import SelectCypher.Proofs.Reader.Calls
import SelectCypher.Proofs.Query.Depth
import SelectCypher.Proofs.Token.Respelling
import SelectCypher.Proofs.Query.Respelling
import SelectCypher.Proofs.Json.Nesting
import SelectCypher.Proofs.Json.Reads
import SelectCypher.Proofs.Json.Yields
import SelectCypher.Proofs.Json.Query
import SelectCypher.Proofs.Token.Concatenation
import SelectCypher.Proofs.Translation.Sweep
import SelectCypher.Proofs.Translation.Diagnostic
import SelectCypher.Proofs.Translation.Length
import SelectCypher.Proofs.Reader.Budget
import SelectCypher.Proofs.Reader.Layers
import SelectCypher.Proofs.CommandLine.Run
import SelectCypher.Proofs.Token.Quoting
