import TopicTables.Main
import TopicTables.Record.Field
import TopicTables.Proofs.Mapping.Rendering
import TopicTables.Proofs.Mapping.Composition
import TopicTables.Proofs.Mapping.Recovery
import TopicTables.Proofs.Identifier.Quotation
import TopicTables.Proofs.Discovery.Order
import TopicTables.Proofs.Discovery.Coverage
import TopicTables.Proofs.Setting.Classification
import TopicTables.Proofs.Table.Report
import TopicTables.Proofs.Discovery.Name
import TopicTables.Proofs.Table.WellFormed
import TopicTables.Proofs.CommandLine
import TopicTables.Proofs.Mapping.Account
import TopicTables.Proofs.Table.Separation
import TopicTables.Proofs.Table.Summary
import TopicTables.Proofs.Discovery.QualifiedName
import TopicTables.Proofs.Setting.Integer
import TopicTables.Proofs.Setting.SettingText
import TopicTables.Proofs.Value.Leaves
import TopicTables.Proofs.Record.Frame
import TopicTables.Proofs.Mapping.Cutting
