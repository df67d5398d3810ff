import ShaderFamilies.BuildSession
import ShaderFamilies.Proofs.ResourceBalance
import ShaderFamilies.Proofs.FirstFailure
import ShaderFamilies.Proofs.VariantAgreement
import ShaderFamilies.Proofs.VariantStages
import ShaderFamilies.Proofs.VariantLines
import ShaderFamilies.Proofs.DirectiveLines
import ShaderFamilies.Proofs.VariantSeparation
import ShaderFamilies.Proofs.MarkerCount
import ShaderFamilies.Proofs.LifeCycle
import ShaderFamilies.Proofs.BackendSimulation
import ShaderFamilies.Proofs.DocumentGrammar
import ShaderFamilies.Proofs.EncodedText
import ShaderFamilies.Proofs.TextScanning
import ShaderFamilies.Proofs.NumeralReading
import ShaderFamilies.Proofs.PlainReading
import ShaderFamilies.Proofs.ObjectReading
import ShaderFamilies.Proofs.DescribedSections
import ShaderFamilies.Proofs.LaidOutTrees
import ShaderFamilies.Proofs.PartialConfigurations
import ShaderFamilies.Proofs.WrittenConfigurations
import ShaderFamilies.Proofs.ElementNames
import ShaderFamilies.Proofs.TableFilling
import ShaderFamilies.Proofs.ColorLookups
import ShaderFamilies.Proofs.ShownLines
import ShaderFamilies.Proofs.UsableTexts
import ShaderFamilies.Proofs.DumpedFiles
import ShaderFamilies.Proofs.FilePlaces
import ShaderFamilies.Proofs.SavedSources
import ShaderFamilies.Proofs.ByteText
import ShaderFamilies.Proofs.MarkedBytes
import ShaderFamilies.Proofs.RenderedBlocks
import ShaderFamilies.Proofs.HistoryIndependence
import ShaderFamilies.Proofs.CompilingStages
import ShaderFamilies.Proofs.LinkingPrograms
import ShaderFamilies.Proofs.RefusedNumbers
import ShaderFamilies.Proofs.NumericFields
import ShaderFamilies.Proofs.BuildLines
import ShaderFamilies.Proofs.SlotRange
import ShaderFamilies.Proofs.ResolvedTables
