import ScanTool.Adapter.Bench
import ScanTool.Files.Tree
import ScanTool.Main
import ScanTool.Adapter.Operation
import ScanTool.Proofs.ScriptedSession
import ScanTool.Proofs.SessionLifecycle
import ScanTool.Live.Monitor
import ScanTool.Proofs.FrameLayout
import ScanTool.Proofs.MisreadFrames
import ScanTool.Proofs.SupportedOnly
import ScanTool.Proofs.LiveValues
import ScanTool.Proofs.BytePairs
import ScanTool.Proofs.BrandListing
import ScanTool.Proofs.UnrelatedAnswers
import ScanTool.Proofs.UnsetQueries
import ScanTool.Proofs.ExactSweep
import ScanTool.Proofs.RunAccount
import ScanTool.Proofs.DistinctDraws
import ScanTool.Proofs.RememberedDraws
import ScanTool.Brand.Operation
import ScanTool.Proofs.OwnTable
import ScanTool.Proofs.QueryOrder
import ScanTool.Proofs.KeyReadBack
import ScanTool.Proofs.KnownTables
import ScanTool.Proofs.OwnFile
import ScanTool.Proofs.CarriedOut
import ScanTool.Proofs.ModesApart
import ScanTool.Proofs.UnmovedDraws
import ScanTool.Proofs.SessionAsChannel
import ScanTool.Proofs.SerialAnswers
import ScanTool.Proofs.SetupOutcome
import ScanTool.Proofs.OneShot
import ScanTool.Proofs.LayeredSettings
import ScanTool.Proofs.SpacedAnswers
import ScanTool.Proofs.StatusLines
import ScanTool.Proofs.SupportMask
import ScanTool.Proofs.StoredPlaces
import ScanTool.Proofs.JoinedAnswers
import ScanTool.Proofs.Respelling
import ScanTool.Proofs.FaultFree
import ScanTool.Proofs.TableUpdates
import ScanTool.Proofs.JsonReadBack
import ScanTool.Proofs.TableFiles
import ScanTool.Proofs.Spellings
import ScanTool.Proofs.CodeWidths
import ScanTool.Proofs.DamagedHeaders
import ScanTool.Proofs.LiveRead
