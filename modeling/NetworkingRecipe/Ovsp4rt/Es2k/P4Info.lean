import NetworkingRecipe.P4Runtime.Messages

/-!
# The P4Info of the ES2K tests

The tables and actions of the P4Info file that the ES2K tests load, in its order: the Linux
networking pipeline with IPsec. The direct counters and the package and type descriptions
are left out, since no lookup reads them, and so are aliases, annotations, and sizes.
-/

namespace NetworkingRecipe.Ovsp4rt.Es2k

open P4Runtime

/-- The pipeline of the ES2K tests. -/
def es2kP4Info : P4Info where
  tables :=
    [⟨⟨48773578, "MainControlDecrypt.lem_exception"⟩, [], [21257015]⟩,
     ⟨⟨38116127, "MainControlDecrypt.lem_clear"⟩, [], [21257015]⟩,
     ⟨⟨45068641, "MainControlDecrypt.ipsec_rx_sa_classification_table"⟩,
       [⟨1, "hdrs.ipv4[vmeta.common.depth].src_ip", 32, .exact⟩,
        ⟨2, "hdrs.ipv4[vmeta.common.depth].dst_ip", 32, .exact⟩, ⟨3, "hdrs.esp.spi", 32, .exact⟩],
       [33177492, 30285547]⟩,
     ⟨⟨41667918, "linux_networking_control.ipv4_lpm_root_lut"⟩,
       [⟨1, "user_meta.cmeta.bit16_zeros", 16, .ternary⟩],
       [17061464]⟩,
     ⟨⟨43524029, "linux_networking_control.ipv6_lpm_root_lut"⟩,
       [⟨1, "user_meta.cmeta.bit16_zeros", 16, .ternary⟩],
       [25701894]⟩,
     ⟨⟨42605135, "linux_networking_control.rif_mod_table_start"⟩,
       [⟨1, "rif_mod_map_id0", 11, .exact⟩],
       [23093409, 21257015]⟩,
     ⟨⟨43970557, "linux_networking_control.rif_mod_table_mid"⟩,
       [⟨1, "rif_mod_map_id1", 11, .exact⟩],
       [30315892, 21257015]⟩,
     ⟨⟨47499906, "linux_networking_control.rif_mod_table_last"⟩,
       [⟨1, "rif_mod_map_id2", 11, .exact⟩],
       [32740970, 21257015]⟩,
     ⟨⟨48081556, "linux_networking_control.always_trap_arp_table"⟩,
       [⟨1, "hdrs.inval.data", 16, .exact⟩, ⟨2, "hdrs.inval.data", 16, .exact⟩],
       [19361592]⟩,
     ⟨⟨47372228, "linux_networking_control.always_recirculate_table"⟩,
       [⟨1, "hdrs.inval.data", 16, .exact⟩, ⟨2, "hdrs.inval.data", 16, .exact⟩],
       [33275382]⟩,
     ⟨⟨40312237, "linux_networking_control.vlan_push_mod_table"⟩,
       [⟨1, "vmeta.common.mod_blob_ptr", 24, .exact⟩],
       [24137163, 21257015]⟩,
     ⟨⟨38884256, "linux_networking_control.vlan_pop_mod_table"⟩,
       [⟨1, "vmeta.common.mod_blob_ptr", 24, .exact⟩],
       [25667542, 21257015]⟩,
     ⟨⟨40763773, "linux_networking_control.vxlan_encap_mod_table"⟩,
       [⟨1, "vmeta.common.mod_blob_ptr", 24, .exact⟩],
       [20733968, 21257015]⟩,
     ⟨⟨39675860, "linux_networking_control.vxlan_encap_vlan_pop_mod_table"⟩,
       [⟨1, "vmeta.common.mod_blob_ptr", 24, .exact⟩],
       [26114242, 21257015]⟩,
     ⟨⟨46225003, "linux_networking_control.vxlan_encap_v6_mod_table"⟩,
       [⟨1, "vmeta.common.mod_blob_ptr", 24, .exact⟩],
       [30345128, 21257015]⟩,
     ⟨⟨34318005, "linux_networking_control.vxlan_encap_v6_vlan_pop_mod_table"⟩,
       [⟨1, "vmeta.common.mod_blob_ptr", 24, .exact⟩],
       [28284062, 21257015]⟩,
     ⟨⟨40980035, "linux_networking_control.vxlan_decap_mod_table"⟩,
       [⟨1, "vmeta.common.mod_blob_ptr", 24, .exact⟩],
       [28308555, 21257015]⟩,
     ⟨⟨37624107, "linux_networking_control.vxlan_decap_and_push_vlan_mod_table"⟩,
       [⟨1, "vmeta.common.mod_blob_ptr", 24, .exact⟩],
       [31953264, 21257015]⟩,
     ⟨⟨41319073, "linux_networking_control.geneve_encap_mod_table"⟩,
       [⟨1, "vmeta.common.mod_blob_ptr", 24, .exact⟩],
       [25818889, 21257015]⟩,
     ⟨⟨47977422, "linux_networking_control.geneve_encap_vlan_pop_mod_table"⟩,
       [⟨1, "vmeta.common.mod_blob_ptr", 24, .exact⟩],
       [26665268, 21257015]⟩,
     ⟨⟨42283616, "linux_networking_control.geneve_encap_v6_mod_table"⟩,
       [⟨1, "vmeta.common.mod_blob_ptr", 24, .exact⟩],
       [29610186, 21257015]⟩,
     ⟨⟨47370391, "linux_networking_control.geneve_encap_v6_vlan_pop_mod_table"⟩,
       [⟨1, "vmeta.common.mod_blob_ptr", 24, .exact⟩],
       [27347188, 21257015]⟩,
     ⟨⟨34173274, "linux_networking_control.geneve_decap_mod_table"⟩,
       [⟨1, "vmeta.common.mod_blob_ptr", 24, .exact⟩],
       [27842378, 21257015]⟩,
     ⟨⟨34525815, "linux_networking_control.geneve_decap_and_push_vlan_mod_table"⟩,
       [⟨1, "vmeta.common.mod_blob_ptr", 24, .exact⟩],
       [25073902, 21257015]⟩,
     ⟨⟨47484925, "linux_networking_control.ipv4_tunnel_term_table"⟩,
       [⟨1, "ipv4_src", 32, .exact⟩, ⟨2, "vni", 24, .exact⟩],
       [31163719, 25342798, 26749366, 31208923, 21790705]⟩,
     ⟨⟨34601307, "linux_networking_control.ipv6_tunnel_term_table"⟩,
       [⟨1, "ipv6_src", 128, .exact⟩, ⟨2, "vni", 24, .exact⟩],
       [31163719, 25342798, 26749366, 31208923, 21257015]⟩,
     ⟨⟨44842501, "linux_networking_control.l2_fwd_rx_table"⟩,
       [⟨2, "user_meta.pmeta.bridge_id", 8, .exact⟩, ⟨1, "dst_mac", 48, .exact⟩],
       [19169916, 21862855, 21283156]⟩,
     ⟨⟨40240205, "linux_networking_control.l2_fwd_tx_table"⟩,
       [⟨1, "user_meta.pmeta.bridge_id", 8, .exact⟩, ⟨2, "dst_mac", 48, .exact⟩],
       [19169916, 24440746, 26412051, 19193142, 31983357, 23849990, 23736116, 17483375, 24842266,
        33478945, 24108243, 25690116, 20441854]⟩,
     ⟨⟨37894008, "linux_networking_control.nexthop_table"⟩,
       [⟨1, "user_meta.cmeta.nexthop_id", 16, .exact⟩, ⟨2, "bit16_zeros", 8, .exact⟩],
       [16795029, 25951413, 29238102, 21257015]⟩,
     ⟨⟨47712712, "linux_networking_control.ecmp_nexthop_table"⟩,
       [⟨1, "user_meta.cmeta.nexthop_id", 16, .ternary⟩],
       [27181644, 29238102]⟩,
     ⟨⟨40757978, "linux_networking_control.tx_lag_table"⟩,
       [⟨1, "user_meta.cmeta.lag_group_id", 8, .ternary⟩, ⟨2, "hash", 3, .ternary⟩],
       [27998997, 24954025, 29238102]⟩,
     ⟨⟨44444143, "linux_networking_control.rx_lag_table"⟩,
       [⟨1, "vmeta.common.port_id", 2, .exact⟩, ⟨2, "user_meta.cmeta.lag_group_id", 8, .exact⟩],
       [26092385, 29238102]⟩,
     ⟨⟨37566509, "linux_networking_control.ipv4_table"⟩,
       [⟨1, "ipv4_table_lpm_root", 32, .exact⟩, ⟨2, "ipv4_dst_match", 32, .lpm⟩],
       [22009623, 16874810, 21257015]⟩,
     ⟨⟨49661222, "linux_networking_control.ecmp_hash_table"⟩,
       [⟨1, "flex", 16, .ternary⟩, ⟨2, "hash", 3, .ternary⟩],
       [29883644, 21257015]⟩,
     ⟨⟨46496254, "linux_networking_control.ipv6_table"⟩,
       [⟨1, "ipv6_table_lpm_root", 32, .exact⟩, ⟨2, "ipv6_dst_match", 128, .lpm⟩],
       [21321477, 27000185, 21257015]⟩,
     ⟨⟨40351839, "linux_networking_control.rx_source_port"⟩,
       [⟨1, "vmeta.common.port_id", 2, .exact⟩, ⟨2, "zero_padding", 16, .exact⟩],
       [32890467, 29238102]⟩,
     ⟨⟨49097500, "linux_networking_control.rx_ipv4_tunnel_source_port"⟩,
       [⟨1, "ipv4_src", 32, .exact⟩, ⟨2, "vni", 24, .exact⟩],
       [32890467, 29238102]⟩,
     ⟨⟨40981078, "linux_networking_control.rx_ipv6_tunnel_source_port"⟩,
       [⟨1, "ipv6_src", 128, .exact⟩, ⟨2, "vni", 24, .exact⟩],
       [32890467, 29238102]⟩,
     ⟨⟨33606489, "linux_networking_control.source_port_to_bridge_map"⟩,
       [⟨1, "user_meta.cmeta.source_port", 16, .ternary⟩,
        ⟨2, "hdrs.vlan_ext[vmeta.common.depth].hdr.vid", 12, .ternary⟩],
       [31939992, 29238102]⟩,
     ⟨⟨46342225, "linux_networking_control.l2_fwd_smac_table"⟩,
       [⟨1, "hdrs.mac[vmeta.common.depth].sa", 48, .exact⟩, ⟨2, "user_meta.pmeta.bridge_id", 8, .exact⟩],
       [21257015, 21283156]⟩,
     ⟨⟨42508227, "linux_networking_control.tx_acc_vsi"⟩,
       [⟨1, "vmeta.common.vsi", 11, .exact⟩, ⟨2, "zero_padding", 16, .exact⟩],
       [31624713, 29238102]⟩,
     ⟨⟨39041593, "linux_networking_control.tx_source_port"⟩,
       [⟨1, "vmeta.common.vsi", 11, .ternary⟩],
       [32890467, 29238102]⟩,
     ⟨⟨43337754, "linux_networking_control.l2_to_tunnel_v4"⟩,
       [⟨1, "hdrs.mac[vmeta.common.depth].da", 48, .exact⟩],
       [23805991, 29238102, 33275382]⟩,
     ⟨⟨36796227, "linux_networking_control.l2_to_tunnel_v6"⟩,
       [⟨1, "hdrs.mac[vmeta.common.depth].da", 48, .exact⟩],
       [23953453, 33275382, 29238102]⟩,
     ⟨⟨38721082, "linux_networking_control.rx_phy_port_to_pr_map"⟩,
       [⟨1, "vmeta.common.port_id", 2, .exact⟩, ⟨2, "zero_padding", 16, .exact⟩],
       [26092385, 29238102]⟩,
     ⟨⟨35934350, "linux_networking_control.source_port_to_pr_map"⟩,
       [⟨1, "user_meta.cmeta.source_port", 16, .exact⟩, ⟨2, "zero_padding", 8, .exact⟩],
       [26092385, 29238102]⟩,
     ⟨⟨45509113, "linux_networking_control.vsi_to_vsi_loopback"⟩,
       [⟨1, "vmeta.common.vsi", 11, .exact⟩, ⟨2, "target_vsi", 11, .exact⟩],
       [26092385, 29238102]⟩,
     ⟨⟨44641644, "linux_networking_control.hash_ipv4_tcp"⟩, [], [21257015]⟩,
     ⟨⟨46678878, "linux_networking_control.hash_ipv4_udp"⟩, [], [21257015]⟩,
     ⟨⟨45972289, "linux_networking_control.hash_ipv4"⟩, [], [21257015]⟩,
     ⟨⟨33896331, "linux_networking_control.hash_l2"⟩, [], [21257015]⟩,
     ⟨⟨46852435, "linux_networking_control.hash_ipv6_tcp"⟩, [], [21257015]⟩,
     ⟨⟨46359163, "linux_networking_control.hash_ipv6_udp"⟩, [], [21257015]⟩,
     ⟨⟨34506208, "linux_networking_control.hash_ipv6"⟩, [], [21257015]⟩,
     ⟨⟨49349790, "linux_networking_control.ipsec_tunnel_table"⟩,
       [⟨1, "vmeta.common.saidx", 24, .exact⟩, ⟨2, "bit16_zeros", 13, .exact⟩],
       [26423957, 21257015]⟩,
     ⟨⟨47756035, "linux_networking_control.ipsec_spd"⟩,
       [⟨1, "hdrs.ipv4[vmeta.common.depth].dst_ip", 32, .exact⟩,
        ⟨2, "hdrs.ipv4[vmeta.common.depth].protocol", 8, .exact⟩],
       [20682322, 19192368, 21257015]⟩,
     ⟨⟨45022218, "linux_networking_control.ipsec_tx_sa_classification_table"⟩,
       [⟨1, "hdrs.ipv4[vmeta.common.depth].dst_ip", 32, .exact⟩,
        ⟨2, "hdrs.ipv4[vmeta.common.depth].protocol", 8, .exact⟩,
        ⟨3, "user_meta.cmeta.is_tunnel", 1, .exact⟩],
       [24935652, 17885953, 30154712, 29527637, 29238102, 21257015]⟩,
     ⟨⟨37326952, "linux_networking_control.ipsec_tunnel_encap_mod_table"⟩,
       [⟨1, "vmeta.common.mod_blob_ptr", 24, .exact⟩],
       [30081157, 21257015]⟩,
     ⟨⟨43475471, "linux_networking_control.ipv4_ipsec_tunnel_term_table"⟩,
       [⟨1, "ipv4_src", 32, .exact⟩, ⟨2, "ipv4_dst", 32, .exact⟩],
       [25138331, 33275382]⟩,
     ⟨⟨37403444, "linux_networking_control.vm_src_ip4_mac_map_table"⟩,
       [⟨1, "ipv4_src", 32, .exact⟩],
       [28718673, 21257015]⟩,
     ⟨⟨50085764, "linux_networking_control.vm_dst_ip4_mac_map_table"⟩,
       [⟨1, "ipv4_dst", 32, .exact⟩],
       [25018769, 21257015]⟩]
  actions :=
    [⟨⟨21257015, "NoAction"⟩, []⟩,
     ⟨⟨30285547, "MainControlDecrypt.ipsec_bypass"⟩, []⟩,
     ⟨⟨33177492, "MainControlDecrypt.ipsec_decrypt"⟩, [⟨1, "saidx", 24⟩]⟩,
     ⟨⟨19173135, "linux_networking_control.no_modify"⟩, []⟩,
     ⟨⟨31851898, "linux_networking_control.dummycall"⟩, []⟩,
     ⟨⟨33275382, "linux_networking_control.do_recirculate"⟩, []⟩,
     ⟨⟨19169916, "linux_networking_control.l2_fwd"⟩, [⟨1, "port", 32⟩]⟩,
     ⟨⟨31624713, "linux_networking_control.l2_fwd_and_bypass_bridge"⟩, [⟨1, "port", 32⟩]⟩,
     ⟨⟨24440746, "linux_networking_control.l2_fwd_lag"⟩, [⟨1, "lag_group_id", 8⟩]⟩,
     ⟨⟨21862855, "linux_networking_control.l2_fwd_lag_and_recirculate"⟩, [⟨1, "lag_group_id", 8⟩]⟩,
     ⟨⟨24954025, "linux_networking_control.bypass"⟩, []⟩,
     ⟨⟨29238102, "linux_networking_control.drop"⟩, []⟩,
     ⟨⟨24137163, "linux_networking_control.vlan_push"⟩,
       [⟨1, "pcp", 3⟩, ⟨2, "dei", 1⟩, ⟨3, "vlan_id", 12⟩]⟩,
     ⟨⟨25667542, "linux_networking_control.vlan_pop"⟩, []⟩,
     ⟨⟨20733968, "linux_networking_control.vxlan_encap"⟩,
       [⟨1, "src_addr", 32⟩, ⟨2, "dst_addr", 32⟩, ⟨3, "src_port", 16⟩, ⟨4, "dst_port", 16⟩,
        ⟨5, "vni", 24⟩]⟩,
     ⟨⟨26114242, "linux_networking_control.vxlan_encap_vlan_pop"⟩,
       [⟨1, "src_addr", 32⟩, ⟨2, "dst_addr", 32⟩, ⟨3, "src_port", 16⟩, ⟨4, "dst_port", 16⟩,
        ⟨5, "vni", 24⟩]⟩,
     ⟨⟨30345128, "linux_networking_control.vxlan_encap_v6"⟩,
       [⟨1, "src_addr", 128⟩, ⟨2, "dst_addr", 128⟩, ⟨3, "ds", 6⟩, ⟨4, "ecn", 2⟩, ⟨5, "flow_label", 20⟩,
        ⟨6, "hop_limit", 8⟩, ⟨7, "src_port", 16⟩, ⟨8, "dst_port", 16⟩, ⟨9, "vni", 24⟩]⟩,
     ⟨⟨28284062, "linux_networking_control.vxlan_encap_v6_vlan_pop"⟩,
       [⟨1, "src_addr", 128⟩, ⟨2, "dst_addr", 128⟩, ⟨3, "ds", 6⟩, ⟨4, "ecn", 2⟩, ⟨5, "flow_label", 20⟩,
        ⟨6, "hop_limit", 8⟩, ⟨7, "src_port", 16⟩, ⟨8, "dst_port", 16⟩, ⟨9, "vni", 24⟩]⟩,
     ⟨⟨25818889, "linux_networking_control.geneve_encap"⟩,
       [⟨1, "src_addr", 32⟩, ⟨2, "dst_addr", 32⟩, ⟨3, "src_port", 16⟩, ⟨4, "dst_port", 16⟩,
        ⟨5, "vni", 24⟩]⟩,
     ⟨⟨26665268, "linux_networking_control.geneve_encap_vlan_pop"⟩,
       [⟨1, "src_addr", 32⟩, ⟨2, "dst_addr", 32⟩, ⟨3, "src_port", 16⟩, ⟨4, "dst_port", 16⟩,
        ⟨5, "vni", 24⟩]⟩,
     ⟨⟨29610186, "linux_networking_control.geneve_encap_v6"⟩,
       [⟨1, "src_addr", 128⟩, ⟨2, "dst_addr", 128⟩, ⟨3, "ds", 6⟩, ⟨4, "ecn", 2⟩, ⟨5, "flow_label", 20⟩,
        ⟨6, "hop_limit", 8⟩, ⟨7, "src_port", 16⟩, ⟨8, "dst_port", 16⟩, ⟨9, "vni", 24⟩]⟩,
     ⟨⟨27347188, "linux_networking_control.geneve_encap_v6_vlan_pop"⟩,
       [⟨1, "src_addr", 128⟩, ⟨2, "dst_addr", 128⟩, ⟨3, "ds", 6⟩, ⟨4, "ecn", 2⟩, ⟨5, "flow_label", 20⟩,
        ⟨6, "hop_limit", 8⟩, ⟨7, "src_port", 16⟩, ⟨8, "dst_port", 16⟩, ⟨9, "vni", 24⟩]⟩,
     ⟨⟨28308555, "linux_networking_control.vxlan_decap_outer_hdr"⟩, []⟩,
     ⟨⟨27842378, "linux_networking_control.geneve_decap_outer_hdr"⟩, []⟩,
     ⟨⟨31953264, "linux_networking_control.vxlan_decap_and_push_vlan"⟩,
       [⟨1, "pcp", 3⟩, ⟨2, "dei", 1⟩, ⟨3, "vlan_id", 12⟩]⟩,
     ⟨⟨25073902, "linux_networking_control.geneve_decap_and_push_vlan"⟩,
       [⟨1, "pcp", 3⟩, ⟨2, "dei", 1⟩, ⟨3, "vlan_id", 12⟩]⟩,
     ⟨⟨23093409, "linux_networking_control.set_src_mac_start"⟩, [⟨1, "arg", 16⟩]⟩,
     ⟨⟨30315892, "linux_networking_control.set_src_mac_mid"⟩, [⟨1, "arg", 16⟩]⟩,
     ⟨⟨32740970, "linux_networking_control.set_src_mac_last"⟩, [⟨1, "arg", 16⟩]⟩,
     ⟨⟨31671750, "linux_networking_control.set_outer_mac"⟩, []⟩,
     ⟨⟨31163719, "linux_networking_control.set_vxlan_decap_outer_hdr"⟩, [⟨1, "tunnel_id", 20⟩]⟩,
     ⟨⟨25342798, "linux_networking_control.set_vxlan_decap_outer_and_push_vlan"⟩, [⟨1, "tunnel_id", 20⟩]⟩,
     ⟨⟨26412051, "linux_networking_control.set_vxlan_underlay_v4"⟩, [⟨1, "tunnel_id", 20⟩]⟩,
     ⟨⟨19193142, "linux_networking_control.set_vxlan_underlay_v6"⟩, [⟨1, "tunnel_id", 20⟩]⟩,
     ⟨⟨31983357, "linux_networking_control.pop_vlan_set_vxlan_underlay_v4"⟩, [⟨1, "tunnel_id", 20⟩]⟩,
     ⟨⟨23849990, "linux_networking_control.pop_vlan_set_vxlan_underlay_v6"⟩, [⟨1, "tunnel_id", 20⟩]⟩,
     ⟨⟨26749366, "linux_networking_control.set_geneve_decap_outer_hdr"⟩, [⟨1, "tunnel_id", 20⟩]⟩,
     ⟨⟨31208923, "linux_networking_control.set_geneve_decap_outer_and_push_vlan"⟩,
       [⟨1, "tunnel_id", 20⟩]⟩,
     ⟨⟨23736116, "linux_networking_control.set_geneve_underlay_v4"⟩, [⟨1, "tunnel_id", 20⟩]⟩,
     ⟨⟨17483375, "linux_networking_control.set_geneve_underlay_v6"⟩, [⟨1, "tunnel_id", 20⟩]⟩,
     ⟨⟨24842266, "linux_networking_control.pop_vlan_set_geneve_underlay_v4"⟩, [⟨1, "tunnel_id", 20⟩]⟩,
     ⟨⟨33478945, "linux_networking_control.pop_vlan_set_geneve_underlay_v6"⟩, [⟨1, "tunnel_id", 20⟩]⟩,
     ⟨⟨27998997, "linux_networking_control.set_egress_port"⟩,
       [⟨1, "router_interface_id", 16⟩, ⟨2, "egress_port", 32⟩]⟩,
     ⟨⟨16795029, "linux_networking_control.set_nexthop_info_dmac"⟩,
       [⟨1, "router_interface_id", 16⟩, ⟨2, "egress_port", 32⟩, ⟨3, "dmac_high", 16⟩,
        ⟨4, "dmac_low", 32⟩]⟩,
     ⟨⟨25951413, "linux_networking_control.set_nexthop_lag"⟩,
       [⟨1, "lag_group_id", 8⟩, ⟨2, "dmac_high", 16⟩, ⟨3, "dmac_low", 32⟩]⟩,
     ⟨⟨27181644, "linux_networking_control.ecmp_set_nexthop_info_dmac"⟩,
       [⟨1, "router_interface_id", 16⟩, ⟨2, "egress_port", 32⟩, ⟨3, "dmac_high", 16⟩,
        ⟨4, "dmac_low", 32⟩]⟩,
     ⟨⟨29883644, "linux_networking_control.set_nexthop_id"⟩, [⟨1, "nexthop_id", 16⟩]⟩,
     ⟨⟨16874810, "linux_networking_control.ecmp_hash_action"⟩, [⟨1, "ecmp_group_id", 16⟩]⟩,
     ⟨⟨22009623, "linux_networking_control.ipv4_set_nexthop_id"⟩, [⟨1, "nexthop_id", 16⟩]⟩,
     ⟨⟨21321477, "linux_networking_control.ipv6_set_nexthop_id"⟩, [⟨1, "nexthop_id", 16⟩]⟩,
     ⟨⟨27000185, "linux_networking_control.ecmp_v6_hash_action"⟩, [⟨1, "ecmp_group_id", 16⟩]⟩,
     ⟨⟨24108243, "linux_networking_control.add_vlan_and_fwd"⟩, [⟨1, "vlan_ptr", 24⟩, ⟨2, "port_id", 32⟩]⟩,
     ⟨⟨25690116, "linux_networking_control.remove_vlan_and_fwd"⟩,
       [⟨1, "vlan_ptr", 24⟩, ⟨2, "port_id", 32⟩]⟩,
     ⟨⟨32890467, "linux_networking_control.set_source_port"⟩, [⟨1, "source_port", 16⟩]⟩,
     ⟨⟨31939992, "linux_networking_control.set_bridge_id"⟩, [⟨1, "bridge_id", 8⟩]⟩,
     ⟨⟨23805991, "linux_networking_control.set_tunnel_v4"⟩, [⟨1, "dst_addr", 32⟩]⟩,
     ⟨⟨23953453, "linux_networking_control.set_tunnel_v6"⟩,
       [⟨1, "ipv6_1", 32⟩, ⟨2, "ipv6_2", 32⟩, ⟨3, "ipv6_3", 32⟩, ⟨4, "ipv6_4", 32⟩]⟩,
     ⟨⟨26092385, "linux_networking_control.fwd_to_vsi"⟩, [⟨1, "port", 32⟩]⟩,
     ⟨⟨21790705, "linux_networking_control.trap_enable"⟩, []⟩,
     ⟨⟨19361592, "linux_networking_control.do_trap_enable"⟩, []⟩,
     ⟨⟨20441854, "linux_networking_control.fwd_to_cp_tx"⟩, []⟩,
     ⟨⟨21283156, "linux_networking_control.fwd_to_cp"⟩, []⟩,
     ⟨⟨26423957, "linux_networking_control.set_ipsec_tunnel"⟩, [⟨1, "tunnel_id", 24⟩]⟩,
     ⟨⟨19192368, "linux_networking_control.ipsec_bypass"⟩, []⟩,
     ⟨⟨29527637, "linux_networking_control.tx_ipsec_tunnel_v6"⟩,
       [⟨1, "dst_addr_1", 32⟩, ⟨2, "dst_addr_2", 32⟩, ⟨3, "dst_addr_3", 16⟩]⟩,
     ⟨⟨30154712, "linux_networking_control.tx_ipsec_tunnel"⟩, [⟨1, "dst_addr", 32⟩]⟩,
     ⟨⟨24935652, "linux_networking_control.tx_ipsec_transport"⟩, []⟩,
     ⟨⟨17885953, "linux_networking_control.tx_ipsec_transport_with_underlay"⟩, []⟩,
     ⟨⟨25138331, "linux_networking_control.decap_ipsec_tunnel_hdr"⟩, []⟩,
     ⟨⟨20682322, "linux_networking_control.ipsec_protect_set_metadata"⟩, [⟨1, "saidx", 24⟩]⟩,
     ⟨⟨30081157, "linux_networking_control.ipsec_tunnel_encap_mod"⟩,
       [⟨1, "ipsec_src_addr", 32⟩, ⟨2, "ipsec_dst_addr", 32⟩, ⟨3, "proto", 8⟩]⟩,
     ⟨⟨33290754, "linux_networking_control.ipsec_transport_mod_action"⟩, []⟩,
     ⟨⟨24657351, "linux_networking_control.ipsec_transport_with_underlay_mod_action"⟩, []⟩,
     ⟨⟨28758942, "linux_networking_control.ipsec_tunnel_decap"⟩, []⟩,
     ⟨⟨28718673, "linux_networking_control.vm_src_ip4_mac_map_action"⟩,
       [⟨1, "smac_high", 16⟩, ⟨2, "smac_mid", 16⟩, ⟨3, "smac_low", 16⟩]⟩,
     ⟨⟨25018769, "linux_networking_control.vm_dst_ip4_mac_map_action"⟩,
       [⟨1, "dmac_high", 16⟩, ⟨2, "dmac_mid", 16⟩, ⟨3, "dmac_low", 16⟩]⟩,
     ⟨⟨17061464, "linux_networking_control.ipv4_lpm_root_lut_action"⟩, [⟨1, "ipv4_table_lpm_root", 32⟩]⟩,
     ⟨⟨25701894, "linux_networking_control.ipv6_lpm_root_lut_action"⟩, [⟨1, "ipv6_table_lpm_root", 32⟩]⟩]

end NetworkingRecipe.Ovsp4rt.Es2k
